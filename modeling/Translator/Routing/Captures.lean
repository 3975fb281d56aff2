import Translator.Routing.Steps

/-! The captures taken along with a route. Every source-output the watcher holds on the translator's
    microphone belongs to the application of the route it remembers, and goes back with it. -/

namespace Translator.Routing

open Schemes

variable {host : Host} {s : Scene} {code : RoutingErrorCode} {d : CaptureSide}
  {r : IncomingRoute} {outputs : List SourceOutputRouteCandidate}

/-- A move of a source-output that is never refused. -/
def Host.MovesOutput (host : Host) (i : Nat) (source : String) : Prop :=
  host.Grants (.moveSourceOutput i source)

theorem moveSourceOutput_capture {post : Call.Post Scene RoutingError Unit} {i : Nat}
    {source : String}
    (hok : ∀ s', s'.captureSide = s.captureSide.move i source → post.ok () s')
    (herr : ∀ e s', s'.captureSide = s.captureSide →
      ¬ (host.MovesOutput i source ∧ s.captureSide.alive i ∧ s.captureSide.hasSource source) →
      post.err e s')
    (hcrash : ∀ s', s'.captureSide = s.captureSide → post.crash s') :
    (moveSourceOutput host i source code).wp post s := by
  refine perform_wp (fun _ => hcrash s rfl) (fun hnot => herr _ _ rfl ?_)
    (fun hnot _ => herr _ _ rfl fun h => hnot h.1)
    (fun s' hs' => hok s' (Scene.carryOut_captureMove hs').1)
  rintro ⟨hmoves, halive, hsource⟩
  refine hnot hmoves ?_
  simpa [Scene.carryOut] using Server.moveSourceOutput_isSome halive hsource

/-! ### Calls that leave the captures alone -/

theorem moveStream_keeps_captures (i : Nat) (sink : String) :
    Call.Keeps Scene.captureSide (moveStream host i sink code) :=
  perform_keeps (fun _ => rfl) (fun _ => rfl) (fun _ _ h => (Scene.carryOut_sinkMove h).2.1)

theorem restoreRoute_keeps_captures (r : IncomingRoute) :
    Call.Keeps Scene.captureSide (restoreRoute host r) := by
  unfold restoreRoute
  cases r.routeMethod with
  | pulseMove => exact moveStream_keeps_captures _ _
  | pipeWireLinks => exact restoreZoom_keeps (fun _ => rfl) (fun _ _ => rfl) r

theorem save_keeps_captures (r : IncomingRoute) :
    Call.Keeps Scene.captureSide (saveActiveRoute host r) := by
  unfold saveActiveRoute
  refine Call.keeps_ite (Call.keeps_fail _) ?_
  exact perform_keeps (fun _ => rfl) (fun _ => rfl)
    (fun _ _ h => by obtain rfl := Option.some.inj h; rfl)

theorem persist_keeps_captures (r : IncomingRoute) :
    Call.Keeps Scene.captureSide (persistActiveRoute host r code) := by
  unfold persistActiveRoute
  refine Call.keeps_bind Call.keeps_get fun s => Call.keeps_ite ?_ (Call.keeps_pure _)
  exact Call.keeps_mapErr (save_keeps_captures r)

theorem clear_keeps_captures : Call.Keeps Scene.captureSide (clearRouteJournal host code) := by
  unfold clearRouteJournal
  refine Call.keeps_bind Call.keeps_get fun s => Call.keeps_ite ?_ (Call.keeps_pure _)
  exact perform_keeps (fun _ => rfl) (fun _ => rfl)
    (fun _ _ h => by obtain rfl := Option.some.inj h; rfl)

theorem takeStream_keeps_captures (c : RouteCandidate) :
    Call.Keeps Scene.captureSide (takeStream host c) := by
  unfold takeStream
  refine Call.keeps_bind (Call.keeps_attempt (moveStream_keeps_captures _ _)) fun x => ?_
  rcases x with e | ⟨⟩
  · refine Call.keeps_bind (Call.keeps_attempt
      (routeZoom_keeps (fun _ => rfl) (fun _ _ => rfl) c)) fun x => ?_
    rcases x with e | ⟨⟩
    · exact Call.keeps_bind (fun _ => rfl) fun _ => Call.keeps_fail _
    · exact Call.keeps_pure _
  · exact Call.keeps_pure _

theorem undoStream_keeps_captures (snapshot : RoutingSnapshot) (r : IncomingRoute) :
    Call.Keeps Scene.captureSide (undoStream host snapshot r) := by
  unfold undoStream
  split
  case h_2 => exact Call.keeps_pure _
  case h_1 =>
    split
    · exact Call.keeps_ite (restoreRoute_keeps_captures r) (Call.keeps_pure _)
    · exact restoreRoute_keeps_captures r

theorem takeAgain_keeps_captures (r : IncomingRoute) (c : RouteCandidate) :
    Call.Keeps Scene.captureSide (takeAgain host r c) := by
  unfold takeAgain
  refine Call.keeps_ite (persist_keeps_captures r) (Call.keeps_ite ?_ (Call.keeps_pure _))
  exact Call.keeps_bind (moveStream_keeps_captures _ _) fun _ => persist_keeps_captures r

/-! ### What is held -/

/-- Everything held belongs to the application with this key. -/
def HeldFor (key : String) (d : CaptureSide) : Prop :=
  ∀ i ∈ d.held, d.sourceOf i = some virtualMicSource ∧ d.keyOf i = some key

/-- Everything held belongs to the application of the route. -/
def Covered (d : CaptureSide) : Prop :=
  ∀ i ∈ d.held, d.sourceOf i = some virtualMicSource
    ∧ ∃ r, d.active = some r ∧ d.keyOf i = some r.stableAppKey

theorem Covered.heldFor (h : Covered d) (hr : d.active = some r) : HeldFor r.stableAppKey d := by
  intro i hi
  obtain ⟨hsource, r', hr', hkey⟩ := h i hi
  obtain rfl := Option.some.inj (hr.symm.trans hr')
  exact ⟨hsource, hkey⟩

theorem HeldFor.covered (h : HeldFor r.stableAppKey d) (hr : d.active = some r) : Covered d :=
  fun i hi => ⟨(h i hi).1, r, hr, (h i hi).2⟩

theorem Covered.held_nil (h : Covered d) (hnone : d.active = none) : d.held = [] := by
  rw [List.eq_nil_iff_forall_not_mem]
  intro i hi
  obtain ⟨-, r, hr, -⟩ := h i hi
  simp [hnone] at hr

theorem mem_held_move {i j : Nat} {source : String} : j ∈ (d.move i source).held
    ↔ (source = virtualMicSource ∧ j = i)
      ∨ (j ∈ d.held ∧ (source = virtualMicSource ∨ j ≠ i)) := by
  unfold CaptureSide.move
  by_cases hs : source = virtualMicSource <;> simp [hs]

/-- Taking a capture of the application. -/
theorem HeldFor.take {key : String} {i : Nat} (h : HeldFor key d) (hkey : d.keyOf i = some key) :
    HeldFor key (d.move i virtualMicSource) := by
  intro j hj
  by_cases hji : j = i
  · subst hji
    exact ⟨by simp [CaptureSide.move], hkey⟩
  · rcases mem_held_move.mp hj with ⟨-, hj⟩ | ⟨hj, -⟩
    · exact absurd hj hji
    · exact ⟨by simp [CaptureSide.move, hji, (h j hj).1], (h j hj).2⟩

/-- Moving a capture to a source of the user's. -/
theorem HeldFor.put {key : String} {i : Nat} {source : String} (h : HeldFor key d)
    (hsource : source ≠ virtualMicSource) : HeldFor key (d.move i source) := by
  intro j hj
  rcases mem_held_move.mp hj with ⟨hs, -⟩ | ⟨hj, hs | hji⟩
  · exact absurd hs hsource
  · exact absurd hs hsource
  · exact ⟨by simp [CaptureSide.move, hji, (h j hj).1], (h j hj).2⟩

/-- The captures and sources there are, which no move changes. -/
structure CaptureFrame where
  keyOf : Nat → Option String
  alive : Nat → Bool
  hasSource : String → Bool
  fallback : Option String

def CaptureSide.frame (d : CaptureSide) : CaptureFrame :=
  ⟨d.keyOf, d.alive, d.hasSource, d.fallback⟩

/-- What a snapshot has on the captures, also after some of them were moved. -/
structure Lists (outputs : List SourceOutputRouteCandidate) (f : CaptureFrame) : Prop where
  key : ∀ output ∈ outputs, f.keyOf output.streamId = some output.stableAppKey
  alive : ∀ output ∈ outputs, f.alive output.streamId = true
  named : ∀ output ∈ outputs, f.hasSource output.sourceName = true
  physical : ∀ output ∈ outputs, output.physicalSource = true →
    output.sourceName ≠ virtualMicSource

theorem Lists.subset {outputs' : List SourceOutputRouteCandidate} {f : CaptureFrame}
    (h : Lists outputs f) (hsub : outputs' ⊆ outputs) : Lists outputs' f where
  key output ho := h.key output (hsub ho)
  alive output ho := h.alive output (hsub ho)
  named output ho := h.named output (hsub ho)
  physical output ho := h.physical output (hsub ho)

theorem lists_snapshot (s : Scene) :
    Lists (s.watcher.snapshot s.server).sourceOutputRoutes s.captureSide.frame where
  key _ ho := (PulseRoutingWatcher.mem_outputs ho).1
  alive _ ho := Server.sourceOutput_isSome_of_sourceOf (PulseRoutingWatcher.mem_outputs ho).2.1
  named _ ho := Server.nodeNamed_of_sourceOf (PulseRoutingWatcher.mem_outputs ho).2.1
  physical _ ho hp := by
    rw [(PulseRoutingWatcher.mem_outputs ho).2.2.1] at hp
    exact safeCaptureSourceName_ne hp

/-! ### Giving captures back -/

/-- Captures going back one by one: what is held shrinks, and it is gone where all could go. -/
theorem restoreOutputs_capture {key source : String} (hsource : source ≠ virtualMicSource) :
    ∀ (outputs : List SourceOutputRouteCandidate) (s : Scene) (d : CaptureSide),
    s.captureSide = d → d.hasSource source = true → Lists outputs d.frame → HeldFor key d →
    (restoreOutputs host source outputs).wp
      ⟨fun _ s' => s'.captureSide.active = d.active ∧ s'.captureSide.frame = d.frame
          ∧ HeldFor key s'.captureSide
          ∧ (∀ i ∈ s'.captureSide.held, i ∈ d.held ∧ ∀ output ∈ outputs, output.streamId ≠ i)
          ∧ (∀ output ∈ outputs, s'.captureSide.sourceOf output.streamId = some source)
          ∧ ∀ i, d.sourceOf i = some source → s'.captureSide.sourceOf i = some source,
        fun _ s' => s'.captureSide.active = d.active ∧ HeldFor key s'.captureSide
          ∧ ¬ ∀ output ∈ outputs, host.MovesOutput output.streamId source,
        fun _ => True⟩ s
  | [], s, d, hs, _, _, hheld => by
    show _ ∧ _
    rw [hs]
    exact ⟨rfl, rfl, hheld, fun i hi => ⟨hi, by simp⟩, by simp, fun _ h => h⟩
  | output :: rest, s, d, hs, hhas, hlists, hheld => by
    unfold restoreOutputs
    rw [Call.wp_bind]
    refine moveSourceOutput_capture (fun s₁ hs₁ => ?_) (fun _ s₁ hs₁ hnot => ?_)
      (fun _ _ => trivial)
    · rw [hs] at hs₁
      refine Call.wp_mono (restoreOutputs_capture hsource rest s₁ _ hs₁ hhas
        (hlists.subset (List.subset_cons_self _ _)) (hheld.put hsource)) ?_ ?_ (fun _ h => h)
      · rintro _ s₂ ⟨ha, hf, hh, hgone, hmoved, hkept⟩
        have hfirst : s₂.captureSide.sourceOf output.streamId = some source :=
          hkept _ (by simp [CaptureSide.move])
        refine ⟨ha, hf, hh, fun i hi => ?_, fun o ho => ?_, fun i hi => ?_⟩
        · obtain ⟨hmem, hother⟩ := hgone i hi
          rcases mem_held_move.mp hmem with ⟨h', -⟩ | ⟨hmem, h' | hne⟩
          · exact absurd h' hsource
          · exact absurd h' hsource
          · refine ⟨hmem, fun o ho => ?_⟩
            rcases List.mem_cons.mp ho with rfl | ho
            · exact fun h => hne h.symm
            · exact hother o ho
        · rcases List.mem_cons.mp ho with rfl | ho
          · exact hfirst
          · exact hmoved o ho
        · by_cases hio : i = output.streamId
          · rw [hio, hfirst]
          · exact hkept i (by simp [CaptureSide.move, hio, hi])
      · rintro _ s₂ ⟨ha, hh, hrefused⟩
        exact ⟨ha, hh, fun hall => hrefused fun o ho => hall o (List.mem_cons_of_mem _ ho)⟩
    · rw [hs] at hs₁ hnot
      dsimp only
      rw [hs₁]
      refine ⟨rfl, hheld, fun hall => hnot ⟨hall output List.mem_cons_self, ?_, hhas⟩⟩
      exact hlists.alive output List.mem_cons_self

/-- A snapshot that still shows every held capture. -/
def Shows (outputs : List SourceOutputRouteCandidate) (d : CaptureSide) : Prop :=
  ∀ i ∈ d.held, ∀ key, d.keyOf i = some key →
    ∃ output ∈ outputs, output.streamId = i ∧ output.stableAppKey = key
      ∧ output.virtualSource = true

theorem shows_snapshot (s : Scene) (hheld : ∀ i ∈ s.captureSide.held,
      s.captureSide.sourceOf i = some virtualMicSource) :
    Shows (s.watcher.snapshot s.server).sourceOutputRoutes s.captureSide :=
  fun i hi _ hkey => PulseRoutingWatcher.virtual_output hkey (hheld i hi)

/-- The source captures go back to is one of the user's. -/
theorem fallback_spec (s : Scene) {source : String} (h : s.captureSide.fallback = some source) :
    source ≠ virtualMicSource ∧ s.captureSide.hasSource source = true := by
  obtain ⟨hsafe, node, hnode, rfl⟩ := preferredRestore_mem h
  exact ⟨safeCaptureSourceName_ne hsafe, nodeNamed_of_mem hnode⟩

/-- The captures of a route can go back: the source to go to is determined, and no move is refused. -/
def Returns (host : Host) (r : IncomingRoute) (outputs : List SourceOutputRouteCandidate)
    (fallback : Option String) : Prop :=
  ∀ output ∈ outputs, output.stableAppKey = r.stableAppKey → output.virtualSource = true →
    ∃ source, fallback = some source ∧ host.MovesOutput output.streamId source

/-- The captures of a route go back: nothing stays held, or the route's are held still. -/
theorem restoreMatching_capture (hs : s.captureSide = d) (hheld : HeldFor r.stableAppKey d)
    (hlists : Lists outputs d.frame) (hshows : Shows outputs d) :
    (restoreMatchingSourceOutputs host r outputs d.fallback).wp
      ⟨fun _ s' => s'.captureSide.active = d.active ∧ s'.captureSide.frame = d.frame
          ∧ s'.captureSide.held = []
          ∧ ∀ i ∈ d.held, s'.captureSide.sourceOf i ≠ some virtualMicSource,
        fun _ s' => s'.captureSide.active = d.active ∧ HeldFor r.stableAppKey s'.captureSide
          ∧ ¬ Returns host r outputs d.fallback,
        fun _ => True⟩ s := by
  unfold restoreMatchingSourceOutputs
  dsimp only
  -- every held capture is among those that go back
  have hamong : ∀ i ∈ d.held, ∃ output ∈ outputs.filter (fun output =>
      output.stableAppKey = r.stableAppKey && output.virtualSource), output.streamId = i := by
    intro i hi
    obtain ⟨output, ho, hid, hkey, hvirtual⟩ := hshows i hi _ (hheld i hi).2
    exact ⟨output, List.mem_filter.mpr ⟨ho, by simp [hkey, hvirtual]⟩, hid⟩
  split
  case isTrue hempty =>
    show _ ∧ _
    rw [hs]
    have hnot : ∀ i, i ∉ d.held := by
      intro i hi
      obtain ⟨output, ho, -⟩ := hamong i hi
      rw [List.isEmpty_iff.mp hempty] at ho
      cases ho
    exact ⟨rfl, rfl, List.eq_nil_iff_forall_not_mem.mpr hnot, fun i hi => absurd hi (hnot i)⟩
  case isFalse hsome =>
    obtain ⟨first, hfirst⟩ := List.exists_mem_of_ne_nil (outputs.filter (fun output =>
      output.stableAppKey = r.stableAppKey && output.virtualSource))
      fun h => hsome (by rw [h]; rfl)
    obtain ⟨hmem, hmatch⟩ := List.mem_filter.mp hfirst
    simp only [Bool.and_eq_true, decide_eq_true_eq] at hmatch
    cases hf : d.fallback with
    | none =>
      show _ ∧ _
      rw [hs]
      refine ⟨rfl, hheld, fun hret => ?_⟩
      obtain ⟨source, h, -⟩ := hret first hmem hmatch.1 hmatch.2
      cases h
    | some source =>
      obtain ⟨hsource, hhas⟩ := fallback_spec s (by rw [hs, hf])
      rw [hs] at hhas
      refine Call.wp_mono (restoreOutputs_capture hsource _ s d hs hhas
        (hlists.subset (List.filter_subset_self _)) hheld) ?_ ?_ (fun _ h => h)
      · rintro _ s' ⟨hactive, hframe, -, hgone, hmoved, -⟩
        refine ⟨hactive, hframe, List.eq_nil_iff_forall_not_mem.mpr fun i hi => ?_, ?_⟩
        · obtain ⟨hi, hother⟩ := hgone i hi
          obtain ⟨output, ho, hid⟩ := hamong i hi
          exact hother output ho hid
        · intro i hi
          obtain ⟨output, ho, rfl⟩ := hamong i hi
          simp [hmoved output ho, hsource]
      · rintro _ s' ⟨hactive, hheld', hrefused⟩
        refine ⟨hactive, hheld', fun hret => hrefused fun o ho => ?_⟩
        obtain ⟨ho, hmatch⟩ := List.mem_filter.mp ho
        simp only [Bool.and_eq_true, decide_eq_true_eq] at hmatch
        obtain ⟨source', h, hmoves⟩ := hret o ho hmatch.1 hmatch.2
        obtain rfl := Option.some.inj h
        exact hmoves

/-- Captures that can all go back do. -/
theorem restoreOutputs_granted {source : String} : ∀ (outputs : List SourceOutputRouteCandidate)
    (s : Scene), s.captureSide.hasSource source = true →
    (∀ output ∈ outputs, s.captureSide.alive output.streamId = true
      ∧ host.MovesOutput output.streamId source) →
    (restoreOutputs host source outputs).wp ⟨fun _ _ => True, fun _ _ => False, fun _ => True⟩ s
  | [], _, _, _ => trivial
  | output :: rest, s, hhas, hall => by
    unfold restoreOutputs
    rw [Call.wp_bind]
    obtain ⟨halive, hmoves⟩ := hall output List.mem_cons_self
    refine moveSourceOutput_capture (fun s₁ hs₁ => ?_)
      (fun _ _ _ hnot => hnot ⟨hmoves, halive, hhas⟩) (fun _ _ => trivial)
    have hsame : s₁.captureSide.hasSource = s.captureSide.hasSource
        ∧ s₁.captureSide.alive = s.captureSide.alive := by
      rw [hs₁]
      exact ⟨rfl, rfl⟩
    refine restoreOutputs_granted rest s₁ (by rw [hsame.1, hhas]) fun o ho => ?_
    rw [hsame.2]
    exact hall o (List.mem_cons_of_mem _ ho)

/-- Where the captures of a route can go back, they do. -/
theorem restoreMatching_granted {s₀ : Scene}
    (hframe : s.captureSide.frame = s₀.captureSide.frame)
    (hreturns : Returns host r (s₀.watcher.snapshot s₀.server).sourceOutputRoutes
      s₀.captureSide.fallback) :
    (restoreMatchingSourceOutputs host r (s₀.watcher.snapshot s₀.server).sourceOutputRoutes
      s₀.captureSide.fallback).wp ⟨fun _ _ => True, fun _ _ => False, fun _ => True⟩ s := by
  have hlists := lists_snapshot s₀
  unfold restoreMatchingSourceOutputs
  dsimp only
  split
  case isTrue => trivial
  case isFalse hsome =>
    have hmatch : ∀ output ∈ (s₀.watcher.snapshot s₀.server).sourceOutputRoutes.filter
        (fun output => output.stableAppKey = r.stableAppKey && output.virtualSource),
        output ∈ (s₀.watcher.snapshot s₀.server).sourceOutputRoutes
          ∧ ∃ source, s₀.captureSide.fallback = some source
            ∧ host.MovesOutput output.streamId source := by
      intro output ho
      obtain ⟨hmem, hmatch⟩ := List.mem_filter.mp ho
      simp only [Bool.and_eq_true, decide_eq_true_eq] at hmatch
      exact ⟨hmem, hreturns output hmem hmatch.1 hmatch.2⟩
    obtain ⟨first, hfirst⟩ := List.exists_mem_of_ne_nil _ fun h => hsome (List.isEmpty_iff.mpr h)
    obtain ⟨-, source, hfallback, -⟩ := hmatch first hfirst
    rw [hfallback]
    have hhas := (fallback_spec s₀ hfallback).2
    have hsame : s.captureSide.hasSource = s₀.captureSide.hasSource
        ∧ s.captureSide.alive = s₀.captureSide.alive :=
      ⟨congrArg CaptureFrame.hasSource hframe, congrArg CaptureFrame.alive hframe⟩
    refine restoreOutputs_granted _ s (by rw [hsame.1, hhas]) fun output ho => ?_
    obtain ⟨hmem, source', hfallback', hmoves⟩ := hmatch output ho
    obtain rfl := Option.some.inj (hfallback.symm.trans hfallback')
    rw [hsame.2]
    exact ⟨hlists.alive output hmem, hmoves⟩

/-! ### Taking captures along -/

/-- Captures that were moved can be put back where they were. -/
def PutsBack (host : Host) (f : CaptureFrame) (moved : List (Nat × String)) : Prop :=
  ∀ m ∈ moved, host.MovesOutput m.1 m.2 ∧ f.alive m.1 = true ∧ f.hasSource m.2 = true

/-- Taking captures back: what is held shrinks, and what was moved is gone where it can go. -/
theorem takeBackOutputs_capture {key : String} :
    ∀ (moved : List (Nat × String)) (s : Scene) (d : CaptureSide), s.captureSide = d →
    (∀ m ∈ moved, m.2 ≠ virtualMicSource) → HeldFor key d →
    (takeBackOutputs host moved).wp
      ⟨fun _ s' => s'.captureSide.active = d.active ∧ HeldFor key s'.captureSide
          ∧ ∀ i ∈ s'.captureSide.held, i ∈ d.held
            ∧ (PutsBack host d.frame moved → ∀ m ∈ moved, m.1 ≠ i),
        fun _ _ => False, fun _ => True⟩ s
  | [], s, d, hs, _, hheld => by
    show _ ∧ _
    rw [hs]
    exact ⟨rfl, hheld, fun i hi => ⟨hi, by simp⟩⟩
  | (i, name) :: rest, s, d, hs, hnames, hheld => by
    have hname : name ≠ virtualMicSource := hnames (i, name) List.mem_cons_self
    have hrest : ∀ m ∈ rest, m.2 ≠ virtualMicSource :=
      fun m hm => hnames m (List.mem_cons_of_mem _ hm)
    unfold takeBackOutputs
    simp only [Call.wp_bind, Call.wp_attempt]
    refine moveSourceOutput_capture (fun s₁ hs₁ => ?_) (fun _ s₁ hs₁ hnot => ?_)
      (fun _ _ => trivial)
    · rw [hs] at hs₁
      refine Call.wp_mono (takeBackOutputs_capture rest s₁ _ hs₁ hrest (hheld.put hname)) ?_
        (fun _ _ h => h) (fun _ h => h)
      rintro _ s₂ ⟨ha, hh, hgone⟩
      refine ⟨ha, hh, fun j hj => ?_⟩
      obtain ⟨hmem, hback⟩ := hgone j hj
      rcases mem_held_move.mp hmem with ⟨h', -⟩ | ⟨hmem, h' | hne⟩
      · exact absurd h' hname
      · exact absurd h' hname
      · refine ⟨hmem, fun hputs m hm => ?_⟩
        rcases List.mem_cons.mp hm with rfl | hm
        · exact fun h => hne h.symm
        · exact hback (fun m hm => hputs m (List.mem_cons_of_mem _ hm)) m hm
    · rw [hs] at hs₁ hnot
      refine Call.wp_mono (takeBackOutputs_capture rest s₁ _ hs₁ hrest hheld) ?_
        (fun _ _ h => h) (fun _ h => h)
      rintro _ s₂ ⟨ha, hh, hgone⟩
      refine ⟨ha, hh, fun j hj => ⟨(hgone j hj).1, fun hputs => ?_⟩⟩
      exact absurd (hputs (i, name) List.mem_cons_self) hnot

/-- The captures of a route come along, or they are taken back. -/
theorem routeOutputs_capture {key : String} :
    ∀ (outputs : List SourceOutputRouteCandidate) (moved : List (Nat × String)) (s : Scene)
      (d : CaptureSide), s.captureSide = d → (∀ m ∈ moved, m.2 ≠ virtualMicSource) →
    HeldFor key d → Lists outputs d.frame →
    (∀ output ∈ outputs, output.stableAppKey = key ∧ output.physicalSource = true) →
    (routeOutputs host moved outputs).wp
      ⟨fun _ s' => s'.captureSide.active = d.active ∧ HeldFor key s'.captureSide,
        fun _ s' => s'.captureSide.active = d.active ∧ HeldFor key s'.captureSide
          ∧ ((∀ i ∈ d.held, ∃ m ∈ moved, m.1 = i) → PutsBack host d.frame moved →
            (∀ output ∈ outputs, host.MovesOutput output.streamId output.sourceName) →
            s'.captureSide.held = []),
        fun _ => True⟩ s
  | [], moved, s, d, hs, _, hheld, _, _ => by
    show _ ∧ _
    rw [hs]
    exact ⟨rfl, hheld⟩
  | output :: rest, moved, s, d, hs, hnames, hheld, hlists, hof => by
    obtain ⟨hkey, hphysical⟩ := hof output List.mem_cons_self
    have hname := hlists.physical output List.mem_cons_self hphysical
    have hmine : d.keyOf output.streamId = some key :=
      hkey ▸ hlists.key output List.mem_cons_self
    unfold routeOutputs
    simp only [Call.wp_bind, Call.wp_attempt]
    refine moveSourceOutput_capture (fun s₁ hs₁ => ?_) (fun _ s₁ hs₁ _ => ?_) (fun _ _ => trivial)
    · rw [hs] at hs₁
      refine Call.wp_mono (routeOutputs_capture rest
        ((output.streamId, output.sourceName) :: moved) s₁ _ hs₁ ?_ (hheld.take hmine)
        (hlists.subset (List.subset_cons_self _ _))
        fun o ho => hof o (List.mem_cons_of_mem _ ho)) (fun _ _ h => h) ?_ (fun _ h => h)
      · intro m hm
        rcases List.mem_cons.mp hm with rfl | hm
        · exact hname
        · exact hnames m hm
      · rintro _ s₂ ⟨ha, hh, hback⟩
        refine ⟨ha, hh, fun hsub hputs hmoves => hback ?_ ?_ ?_⟩
        · intro i hi
          rcases mem_held_move.mp hi with ⟨-, rfl⟩ | ⟨hi, -⟩
          · exact ⟨_, List.mem_cons_self, rfl⟩
          · obtain ⟨m, hm, hmi⟩ := hsub i hi
            exact ⟨m, List.mem_cons_of_mem _ hm, hmi⟩
        · intro m hm
          rcases List.mem_cons.mp hm with rfl | hm
          · exact ⟨hmoves output List.mem_cons_self, hlists.alive output List.mem_cons_self,
              hlists.named output List.mem_cons_self⟩
          · exact hputs m hm
        · exact fun o ho => hmoves o (List.mem_cons_of_mem _ ho)
    · rw [hs] at hs₁
      simp only [Call.wp_fail]
      refine Call.wp_mono (takeBackOutputs_capture moved s₁ d hs₁ hnames hheld) ?_
        (fun _ _ h => h.elim) (fun _ h => h)
      rintro _ s₂ ⟨ha, hh, hgone⟩
      refine ⟨ha, hh, fun hsub hputs _ => List.eq_nil_iff_forall_not_mem.mpr fun i hi => ?_⟩
      obtain ⟨hmem, hother⟩ := hgone i hi
      obtain ⟨m, hm, hmi⟩ := hsub i hmem
      exact hother hputs m hm hmi

/-- The captures of a route come along. Where they are taken back and nothing was held before, nothing
    is held. -/
theorem routeMatching_capture (hs : s.captureSide = d) (hheld : HeldFor r.stableAppKey d)
    (hlists : Lists outputs d.frame) :
    (routeMatchingSourceOutputs host r outputs).wp
      ⟨fun _ s' => s'.captureSide.active = d.active ∧ HeldFor r.stableAppKey s'.captureSide,
        fun _ s' => s'.captureSide.active = d.active ∧ HeldFor r.stableAppKey s'.captureSide
          ∧ (d.held = [] → (∀ output ∈ outputs, output.physicalSource = true →
              host.MovesOutput output.streamId output.sourceName) → s'.captureSide.held = []),
        fun _ => True⟩ s := by
  have hof : ∀ output ∈ outputs.filter (fun output =>
      output.stableAppKey = r.stableAppKey && output.physicalSource),
      output.stableAppKey = r.stableAppKey ∧ output.physicalSource = true := by
    intro o ho
    simpa using (List.mem_filter.mp ho).2
  refine Call.wp_mono (routeOutputs_capture _ [] s d hs (by simp) hheld
    (hlists.subset (List.filter_subset_self _)) hof) (fun _ _ h => h) ?_ (fun _ h => h)
  rintro _ s' ⟨ha, hh, hback⟩
  refine ⟨ha, hh, fun hnil hmoves => hback (by simp [hnil]) (fun m hm => by cases hm) fun o ho => ?_⟩
  exact hmoves o (List.mem_filter.mp ho).1 (hof o ho).2

/-! ### The calls -/

/-- The captures stay covered, whether the call returns or fails. -/
def capturePost {α : Type} : Call.Post Scene RoutingError α :=
  ⟨fun _ s => Covered s.captureSide, fun _ s => Covered s.captureSide, fun _ => True⟩

theorem covered_of_held_nil (h : d.held = []) : Covered d := by
  intro i hi
  rw [h] at hi
  cases hi

theorem capturePost_of_keeps {α : Type} {call : RoutingCall α}
    (hc : Call.Keeps Scene.captureSide call) (h : Covered s.captureSide) :
    call.wp capturePost s :=
  Call.wp_of_keeps hc (fun _ _ hs' => (hs' ▸ h :)) (fun _ _ hs' => (hs' ▸ h :))
    (fun _ _ => trivial)

section Calls

variable {c : RouteCandidate} {snapshot : RoutingSnapshot}

/-- The captures taken within a call can be put back. -/
def PutsOutputs (host : Host) (outputs : List SourceOutputRouteCandidate) : Prop :=
  ∀ output ∈ outputs, output.physicalSource = true →
    host.MovesOutput output.streamId output.sourceName

theorem enterRoute_capture (hs : s.captureSide = d) (hnil : d.held = [])
    (hlists : Lists outputs d.frame) (hputs : PutsOutputs host outputs) :
    (enterRoute host c outputs).wp capturePost s := by
  have hnone : ∀ s' : Scene, s'.captureSide = d → Covered s'.captureSide := by
    intro s' hs'
    rw [hs']
    exact covered_of_held_nil hnil
  unfold enterRoute
  rw [Call.wp_bind]
  refine Call.wp_of_keeps (takeStream_keeps_captures c) (fun method s₁ hs₁ => ?_)
    (fun _ s₁ hs₁ => hnone s₁ (hs₁.trans hs)) (fun _ _ => trivial)
  have hs₁ := hs₁.trans hs
  unfold settleRoute
  simp only [Call.wp_bind, Call.wp_attempt, wp_remember]
  refine Call.wp_of_keeps (persist_keeps_captures _) (fun _ s₂ hs₂ => ?_) (fun _ s₂ hs₂ => ?_)
    (fun _ _ => trivial) <;> have hs₂ : s₂.captureSide = d := hs₂.trans hs₁
  · have hheld : HeldFor c.stableAppKey d := by
      intro i hi
      rw [hnil] at hi
      cases hi
    refine Call.wp_mono (routeMatching_capture (r := c.route method) hs₂ hheld hlists)
      (fun _ s₃ h₃ => ?_) (fun _ s₃ h₃ => ?_) (fun _ _ => trivial)
    · exact HeldFor.covered (r := c.route method) (d := { s₃.captureSide with
        active := some (c.route method) }) h₃.2 rfl
    · -- everything was taken back, and the rest leaves the captures alone
      have hnil₃ := h₃.2.2 hnil hputs
      have hdone : ∀ s' : Scene, s'.captureSide = s₃.captureSide → Covered s'.captureSide := by
        intro s' hs'
        rw [hs']
        exact covered_of_held_nil hnil₃
      have hclear : ∀ s₄ : Scene, s₄.captureSide = s₃.captureSide →
          (clearRouteJournal host .restoreFailed).wp ⟨fun _ s => Covered s.captureSide,
            fun _ s => Covered s.captureSide, fun _ => True⟩
            (s₄.remember ({ · with selectedAppKey := none })) := by
        intro s₄ hs₄
        exact Call.wp_of_keeps clear_keeps_captures (fun _ s₅ hs₅ => hdone s₅ (hs₅.trans hs₄))
          (fun _ s₅ hs₅ => hdone s₅ (hs₅.trans hs₄)) (fun _ _ => trivial)
      exact Call.wp_of_keeps (restoreRoute_keeps_captures _) (fun _ s₄ hs₄ => hclear s₄ hs₄)
        (fun _ s₄ hs₄ => hclear s₄ hs₄) (fun _ _ => trivial)
  · exact Call.wp_of_keeps (restoreRoute_keeps_captures _)
      (fun _ s₃ hs₃ => hnone _ (hs₃.trans hs₂)) (fun _ s₃ hs₃ => hnone _ (hs₃.trans hs₂))
      (fun _ _ => trivial)

/-- A route is let go: nothing is held any more, or it is the route still. -/
theorem releaseRoute_capture (hs : s.captureSide = d) (hcov : Covered d) (hr : d.active = some r)
    (hlists : Lists outputs d.frame) (hshows : Shows outputs d) :
    (releaseRoute host r outputs d.fallback code).wp
      ⟨fun _ s' => s'.captureSide.frame = d.frame ∧ s'.captureSide.held = [],
        fun _ s' => Covered s'.captureSide, fun _ => True⟩ s := by
  unfold releaseRoute
  simp only [Call.wp_bind, wp_remember]
  refine Call.wp_mono (restoreMatching_capture hs (hcov.heldFor hr) hlists hshows)
    (fun _ s₁ h₁ => ?_) (fun _ s₁ h₁ => h₁.2.1.covered (h₁.1.trans hr)) (fun _ h => h)
  refine Call.wp_of_keeps clear_keeps_captures (fun _ s₂ hs₂ => ?_) (fun _ s₂ hs₂ => ?_)
    (fun _ _ => trivial) <;> dsimp only
  · show s₂.captureSide.frame = d.frame ∧ s₂.captureSide.held = []
    rw [hs₂]
    exact ⟨h₁.2.1, h₁.2.2.1⟩
  · rw [hs₂]
    exact covered_of_held_nil h₁.2.2.1

theorem leaveRoute_capture (hs : s.captureSide = d) (hcov : Covered d) (hr : d.active = some r)
    (hlists : Lists outputs d.frame) (hshows : Shows outputs d) :
    (leaveRoute host r c outputs d.fallback).wp
      ⟨fun _ s' => s'.captureSide.frame = d.frame ∧ s'.captureSide.held = [],
        fun _ s' => Covered s'.captureSide, fun _ => True⟩ s := by
  unfold leaveRoute
  split
  case isTrue => exact releaseRoute_capture hs hcov hr hlists hshows
  case isFalse =>
    rw [Call.wp_bind, Call.wp_mapErr]
    refine Call.wp_of_keeps (restoreRoute_keeps_captures r) (fun _ s₁ hs₁ => ?_)
      (fun _ s₁ hs₁ => ?_) (fun _ _ => trivial)
    · exact releaseRoute_capture (hs₁.trans hs) hcov hr hlists hshows
    · dsimp only
      rw [hs₁, hs]
      exact hcov

theorem routeAndReport_capture (hs : s.captureSide = d) (hcov : Covered d)
    (hlists : Lists snapshot.sourceOutputRoutes d.frame)
    (hshows : Shows snapshot.sourceOutputRoutes d)
    (hfallback : snapshot.fallbackRestoreSourceName = d.fallback)
    (hputs : PutsOutputs host snapshot.sourceOutputRoutes) :
    (routeAndReport host snapshot c).wp capturePost s := by
  have hroute : (routeCandidateStream host c snapshot.sourceOutputRoutes
      snapshot.fallbackRestoreSourceName).wp capturePost s := by
    unfold routeCandidateStream
    simp only [Call.wp_bind, Call.wp_get]
    have hactive : s.watcher.activeRoute = d.active := by rw [← hs]; rfl
    rw [hactive, hfallback]
    cases hr : d.active with
    | none => exact enterRoute_capture hs (hcov.held_nil hr) hlists hputs
    | some r =>
      dsimp only
      split
      case isTrue =>
        simp only [Call.wp_bind, wp_remember]
        refine Call.wp_of_keeps (persist_keeps_captures r) (fun _ s₁ hs₁ => ?_)
          (fun _ s₁ hs₁ => ?_) (fun _ _ => trivial)
        · refine Call.wp_mono (routeMatching_capture (hs₁.trans hs) (hcov.heldFor hr) hlists)
            (fun _ s₂ h₂ => ?_) (fun _ s₂ h₂ => ?_) (fun _ h => h)
          · exact h₂.2.covered (h₂.1.trans hr)
          · exact h₂.2.1.covered (h₂.1.trans hr)
        · exact (hs₁.trans hs ▸ hcov :)
      case isFalse =>
        rw [Call.wp_bind]
        refine Call.wp_mono (leaveRoute_capture hs hcov hr hlists hshows) (fun _ s₁ h₁ => ?_)
          (fun _ _ h => h) (fun _ h => h)
        exact enterRoute_capture rfl h₁.2 (h₁.1 ▸ hlists) hputs
  unfold routeAndReport
  rw [Call.wp_bind]
  exact Call.wp_mono hroute (fun _ _ h => h) (fun _ _ h => h) (fun _ h => h)

theorem refreshRoute_capture (hs : s.captureSide = d) (hcov : Covered d) (hr : d.active = some r)
    (hlists : Lists snapshot.sourceOutputRoutes d.frame) :
    (refreshRoute host snapshot r c).wp capturePost s := by
  unfold refreshRoute
  simp only [Call.wp_bind]
  refine Call.wp_of_keeps (takeAgain_keeps_captures r c) (fun _ s₁ hs₁ => ?_) (fun _ s₁ hs₁ => ?_)
    (fun _ _ => trivial)
  · refine Call.wp_mono (routeMatching_capture (hs₁.trans hs) (hcov.heldFor hr) hlists)
      (fun _ s₂ h₂ => ?_) (fun _ s₂ h₂ => ?_) (fun _ h => h)
    · exact h₂.2.covered (h₂.1.trans hr)
    · exact h₂.2.1.covered (h₂.1.trans hr)
  · exact (hs₁.trans hs ▸ hcov :)

/-- A route is forgotten before its captures go back, so they have to be able to. -/
theorem forgetRoute_capture (hs : s.captureSide = d) (hcov : Covered d) (hr : d.active = some r)
    (hlists : Lists snapshot.sourceOutputRoutes d.frame)
    (hshows : Shows snapshot.sourceOutputRoutes d)
    (hfallback : snapshot.fallbackRestoreSourceName = d.fallback)
    (hreturns : Returns host r snapshot.sourceOutputRoutes d.fallback) :
    (forgetRoute host snapshot r).wp
      ⟨fun _ s' => s'.captureSide.frame = d.frame ∧ s'.captureSide.held = [],
        fun _ s' => Covered s'.captureSide, fun _ => True⟩ s := by
  unfold forgetRoute
  simp only [Call.wp_bind, wp_remember]
  rw [hfallback]
  have hs₁ : (s.remember ({ · with activeRoute := none })).captureSide
      = { d with active := none } := by rw [← hs]; rfl
  refine Call.wp_mono (restoreMatching_capture (d := { d with active := none }) hs₁
    (hcov.heldFor hr) hlists hshows) (fun _ s₂ h₂ => ?_) (fun _ s₂ h₂ => ?_) (fun _ h => h)
  · refine Call.wp_of_keeps clear_keeps_captures (fun _ s₃ hs₃ => ?_) (fun _ s₃ hs₃ => ?_)
      (fun _ _ => trivial) <;> dsimp only
    · show s₃.captureSide.frame = d.frame ∧ s₃.captureSide.held = []
      rw [hs₃]
      exact ⟨h₂.2.1, h₂.2.2.1⟩
    · rw [hs₃]
      exact covered_of_held_nil h₂.2.2.1
  · exact absurd hreturns h₂.2.2

theorem restoreStaleStream_capture {sink : String} (hcov : Covered s.captureSide) :
    (restoreStaleStream host c sink).wp capturePost s := by
  refine capturePost_of_keeps ?_ hcov
  unfold restoreStaleStream
  refine Call.keeps_bind (moveStream_keeps_captures _ _) fun _ => ?_
  refine Call.keeps_bind (fun _ => rfl) fun _ => ?_
  refine Call.keeps_bind clear_keeps_captures fun _ => ?_
  exact Call.keeps_bind (discover_keeps fun _ => rfl) fun _ => state_keeps _ _

theorem restoreActive_capture (hcov : Covered s.captureSide) :
    (restoreActive host).wp capturePost s := by
  have hstill : ∀ s' : Scene, s'.still = s.still → Covered s'.captureSide :=
    fun s' hs' => captureSide_of_still hs' ▸ hcov
  unfold restoreActive
  simp only [Call.wp_bind, wp_remember]
  refine discover_wp (fun _ _ _ => trivial) (fun s' hs' _ => hstill s' hs') fun s₁ hs₁ => ?_
  simp only [Call.wp_get]
  have hcov₁ := hstill s₁ hs₁
  have htail : ∀ s₂ s₃ : Scene, s₂.captureSide.held = [] →
      s₃.captureSide = { s₂.captureSide with active := none } →
      (clearRouteJournal host .restoreFailed).wp
        ⟨fun _ => (state (s.watcher.snapshot s.server) (s.watcher.snapshot s.server).unrouted).wp
            capturePost,
          fun _ s' => Covered s'.captureSide, fun _ => True⟩ s₃ := by
    intro s₂ s₃ hnil hs₃
    have hdone : Covered s₃.captureSide := by
      rw [hs₃]
      exact covered_of_held_nil hnil
    exact Call.wp_of_keeps clear_keeps_captures (fun _ s₄ hs₄ => (hs₄ ▸ hdone :))
      (fun _ s₄ hs₄ => (hs₄ ▸ hdone :)) (fun _ _ => trivial)
  have hsnap : s.watcher.snapshot s.server = s₁.watcher.snapshot s₁.server := by
    rw [still_watcher hs₁, still_server hs₁]
  rw [hsnap] at htail ⊢
  cases hr : s₁.watcher.activeRoute with
  | none => exact htail s₁ _ (hcov₁.held_nil hr) rfl
  | some r =>
    unfold undoRoute
    simp only [Call.wp_bind]
    refine Call.wp_of_keeps (undoStream_keeps_captures _ r) (fun _ s₂ hs₂ => ?_)
      (fun _ s₂ hs₂ => (hs₂ ▸ hcov₁ :)) (fun _ _ => trivial)
    refine Call.wp_mono (restoreMatching_capture hs₂ (hcov₁.heldFor hr) (lists_snapshot s₁)
      (shows_snapshot s₁ fun i hi => (hcov₁ i hi).1)) (fun _ s₃ h₃ => ?_) (fun _ s₃ h₃ => ?_)
      (fun _ h => h)
    · exact htail s₃ _ h₃.2.2.1 rfl
    · exact h₃.2.1.covered (h₃.1.trans hr)

end Calls

end Translator.Routing
