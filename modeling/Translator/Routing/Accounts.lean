import Translator.Routing.Branches

/-! The watcher's book of its route. On the sink side every stream it holds is the stream of the route
    it remembers, and with a journal the route is on record. How much of that stands depends on the
    `Terms`: whether streams can be moved back within a call, whether nobody else moves streams, and
    whether the journal follows. Each clause is kept by every step under the terms it needs. -/

namespace Translator.Routing

open Schemes

/-- What the surroundings promise. -/
structure Terms where
  takesBack : Prop
  undisturbed : Prop
  mirrored : Prop
  journaled : Prop
  undisturbed_takesBack : undisturbed → takesBack

namespace SinkLedger

variable {ledger : SinkLedger} {i j : Nat} {source target : String}

theorem mem_held_move : j ∈ (ledger.move i source target).held
    ↔ (target = remoteInSink ∧ j = i) ∨ (j ∈ ledger.held ∧ (target = remoteInSink ∨ j ≠ i)) := by
  unfold move
  by_cases ht : target = remoteInSink
  · simp [ht]
  · simp [ht]

theorem mem_moved_move : j ∈ (ledger.move i source target).moved ↔ j = i ∨ j ∈ ledger.moved := by
  simp [move]

theorem lookup_move_of_ne (h : target ≠ remoteInSink) :
    (ledger.move i source target).homes = ledger.homes := by
  simp [move, h]

/-- The first move to the translator's sink settles where a stream came from. -/
theorem lookup_move_remote : (ledger.move i source remoteInSink).homes.lookup j
    = if j = i ∧ ledger.homes.lookup i = none then some source else ledger.homes.lookup j := by
  unfold move
  by_cases hi : ledger.homes.lookup i = none
  · by_cases hj : j = i
    · simp [hi, hj]
    · have hne : (j == i) = false := by simpa using hj
      simp [hi, hj, List.lookup_cons, hne]
  · simp [hi]

end SinkLedger

/-- A linked route that `restore_zoom_pipewire_links` can work with. -/
def Restorable (r : IncomingRoute) : Prop :=
  r.routeMethod = .pipeWireLinks → r.application = .zoom
    ∧ (r.pipewireNodeName.bind pipewireNodeName).isSome
    ∧ (pipewireNodeName r.originalSinkName).isSome

/-- The sink side is accounted for. -/
structure Accounted (codec : JournalCodec) (t : Terms) (d : SinkSide) : Prop where
  original : t.takesBack → ∀ r, d.active = some r → r.originalSinkName ≠ remoteInSink
  recorded : d.hasJournal = true → ∀ r, d.active = some r → loadActiveRoute codec d.journal = some r
  blank : t.mirrored → d.hasJournal = true → d.active = none → loadActiveRoute codec d.journal = none
  held : t.takesBack → ∀ i ∈ d.ledger.held, d.sinkOf i = some remoteInSink ∧
    ∃ r, d.active = some r ∧ r.streamId = i ∧ r.routeMethod = .pulseMove
      ∧ d.keyOf i = some r.stableAppKey
  home : t.undisturbed → ∀ i h, d.ledger.homes.lookup i = some h →
    h ≠ remoteInSink ∧ (i ∉ d.ledger.held → d.sinkOf i = some h)
  off : t.undisturbed → ∀ i ∈ d.ledger.moved, i ∉ d.ledger.held → d.sinkOf i ≠ some remoteInSink
  own : t.undisturbed → ∀ r, d.active = some r → r.routeMethod = .pulseMove →
    ∀ h, d.ledger.homes.lookup r.streamId = some h → h = r.originalSinkName
  living : t.undisturbed → ∀ r, d.active = some r → r.routeMethod = .pulseMove →
    d.keyOf r.streamId = some r.stableAppKey → (d.ledger.homes.lookup r.streamId).isSome
  journaled : t.journaled → d.hasJournal = true
  named : t.takesBack → ∀ r, d.active = some r → r.routeMethod = .pulseMove →
    d.hasSink r.originalSinkName = true
  restorable : t.takesBack → ∀ r, d.active = some r → Restorable r

/-- What a crash leaves: every held stream is known, and the journal has its route or nothing. -/
def Crashed (codec : JournalCodec) (t : Terms) (d : SinkSide) : Prop :=
  t.takesBack → t.mirrored → t.journaled → ∀ i ∈ d.ledger.held,
    d.sinkOf i = some remoteInSink ∧ ∃ key, d.keyOf i = some key ∧
      (loadActiveRoute codec d.journal = none ∨ ∃ r, loadActiveRoute codec d.journal = some r
        ∧ r.streamId = i ∧ r.routeMethod = .pulseMove ∧ r.stableAppKey = key
        ∧ r.originalSinkName ≠ remoteInSink ∧ d.hasSink r.originalSinkName = true)

/-- A stream that can be routed: known, and not on the translator's sink. -/
structure Free (d : SinkSide) (c : RouteCandidate) : Prop where
  key : d.keyOf c.streamId = some c.stableAppKey
  sink : d.sinkOf c.streamId = some c.currentSinkName
  named : d.hasSink c.currentSinkName = true
  off : c.currentSinkName ≠ remoteInSink

namespace Accounted

variable {codec : JournalCodec} {t : Terms} {d : SinkSide} {r : IncomingRoute} {c : RouteCandidate}

theorem crashed (h : Accounted codec t d) : Crashed codec t d := by
  intro hback _ hj i hi
  obtain ⟨hsink, r, hr, hid, hm, hkey⟩ := h.held hback i hi
  exact ⟨hsink, _, hkey, .inr ⟨r, h.recorded (h.journaled hj) r hr, hid, hm, rfl, h.original hback r hr,
    h.named hback r hr hm⟩⟩

/-- Nothing is held without a route. -/
theorem held_nil (h : Accounted codec t d) (hback : t.takesBack) (hnone : d.active = none) :
    d.ledger.held = [] := by
  rw [List.eq_nil_iff_forall_not_mem]
  intro i hi
  obtain ⟨-, r, hr, -⟩ := h.held hback i hi
  simp [hnone] at hr

/-- The only stream that can be held is that of the route. -/
theorem eq_of_held (h : Accounted codec t d) (hback : t.takesBack) (hr : d.active = some r) {i : Nat}
    (hi : i ∈ d.ledger.held) : i = r.streamId ∧ r.routeMethod = .pulseMove
      ∧ d.keyOf r.streamId = some r.stableAppKey ∧ d.sinkOf r.streamId = some remoteInSink := by
  obtain ⟨hsink, r', hr', rfl, hm, hkey⟩ := h.held hback i hi
  obtain rfl := Option.some.inj (hr.symm.trans hr')
  exact ⟨rfl, hm, hkey, hsink⟩

/-! ### Journal and memory -/

/-- The route is written down again. -/
theorem write_saved (h : Accounted codec t d) (hr : d.active = some r)
    (hvalid : d.hasJournal = true → validRoute r = true) :
    Accounted codec t (d.write (savedRoute codec r)) := by
  unfold SinkSide.write
  split
  case isFalse => exact h
  case isTrue hj =>
    refine ⟨h.original, ?_, ?_, h.held, h.home, h.off, h.own, h.living,
      h.journaled, h.named, h.restorable⟩
    · intro _ r' hr'
      obtain rfl := Option.some.inj (hr.symm.trans hr')
      exact loadActiveRoute_saved (hvalid hj)
    · intro _ _ hnone
      have hnone : d.active = none := hnone
      simp [hr] at hnone

/-- The journal goes while there is no route. -/
theorem write_none (h : Accounted codec t d) (hnone : d.active = none) :
    Accounted codec t (d.write none) := by
  unfold SinkSide.write
  split
  case isFalse => exact h
  case isTrue =>
    refine ⟨h.original, ?_, fun _ _ _ => rfl, h.held, h.home, h.off, h.own, h.living,
      h.journaled, h.named, h.restorable⟩
    intro _ r hr
    have hr : d.active = some r := hr
    simp [hnone] at hr

/-- The route is forgotten while its stream is not held. The journal still has it. -/
theorem forget (h : Accounted codec { t with mirrored := False } d)
    (hheld : t.takesBack → d.ledger.held = []) :
    Accounted codec { t with mirrored := False } { d with active := none } where
  original _ _ hr := by simp at hr
  recorded _ _ hr := by simp at hr
  blank := nofun
  held hback i hi := by
    have hi : i ∈ d.ledger.held := hi
    simp [hheld hback] at hi
  home := h.home
  off := h.off
  own _ _ hr := by simp at hr
  journaled := h.journaled
  named _ _ hr := by simp at hr
  restorable _ _ hr := by simp at hr
  living _ _ hr := by simp at hr

/-- Terms that promise less. -/
theorem weaken (h : Accounted codec t d) : Accounted codec { t with mirrored := False } d :=
  ⟨h.original, h.recorded, nofun, h.held, h.home, h.off, h.own, h.living,
      h.journaled, h.named, h.restorable⟩

/-- With the journal blank all the terms stand again. -/
theorem strengthen (h : Accounted codec { t with mirrored := False } d)
    (hblank : t.mirrored → d.hasJournal = true → d.active = none →
      loadActiveRoute codec d.journal = none) : Accounted codec t d :=
  ⟨h.original, h.recorded, hblank, h.held, h.home, h.off, h.own, h.living,
      h.journaled, h.named, h.restorable⟩

/-! ### Moves -/

/-- A stream is moved to a sink of the user's: it was not held, or it is that of the route and goes
    back to where it came from. -/
theorem move_off (h : Accounted codec t d) {i : Nat} {sink : String}
    (hsink : t.takesBack → sink ≠ remoteInSink)
    (hheld : t.takesBack → ∀ j ∈ d.ledger.held, j = i)
    (hhome : t.undisturbed → ∀ h, d.ledger.homes.lookup i = some h → h = sink) :
    Accounted codec t (d.move i sink) where
  original := h.original
  recorded := h.recorded
  blank := h.blank
  held hback j hj := by
    rcases SinkLedger.mem_held_move.mp hj with ⟨h', -⟩ | ⟨hj, h' | h'⟩
    · exact absurd h' (hsink hback)
    · exact absurd h' (hsink hback)
    · exact absurd (hheld hback j hj) h'
  home hund j home hlook := by
    rw [show (d.move i sink).ledger.homes = d.ledger.homes from
      SinkLedger.lookup_move_of_ne (hsink (t.undisturbed_takesBack hund))] at hlook
    obtain ⟨hoff, hat⟩ := h.home hund j home hlook
    refine ⟨hoff, fun hj => ?_⟩
    by_cases hji : j = i
    · subst hji
      simp [SinkSide.move, hhome hund home hlook]
    · have hj' : j ∉ d.ledger.held := by
        intro hmem
        exact hj (SinkLedger.mem_held_move.mpr (.inr ⟨hmem, .inr hji⟩))
      simp [SinkSide.move, hji, hat hj']
  off hund j hj hnot := by
    by_cases hji : j = i
    · subst hji
      simp [SinkSide.move, hsink (t.undisturbed_takesBack hund)]
    · rcases SinkLedger.mem_moved_move.mp hj with hj | hj
      · exact absurd hj hji
      · have hj' : j ∉ d.ledger.held := by
          intro hmem
          exact hnot (SinkLedger.mem_held_move.mpr (.inr ⟨hmem, .inr hji⟩))
        simpa [SinkSide.move, hji] using h.off hund j hj hj'
  own hund r hr hm home hlook := by
    rw [show (d.move i sink).ledger.homes = d.ledger.homes from
      SinkLedger.lookup_move_of_ne (hsink (t.undisturbed_takesBack hund))] at hlook
    exact h.own hund r hr hm home hlook
  journaled := h.journaled
  named := h.named
  restorable := h.restorable
  living hund r hr hm hkey := by
    rw [show (d.move i sink).ledger.homes = d.ledger.homes from
      SinkLedger.lookup_move_of_ne (hsink (t.undisturbed_takesBack hund))]
    exact h.living hund r hr hm hkey

/-- The stream of the route goes back. -/
theorem move_home (h : Accounted codec t d) (hr : d.active = some r)
    (hm : r.routeMethod = .pulseMove) :
    Accounted codec t (d.move r.streamId r.originalSinkName) := by
  refine h.move_off (fun hback => h.original hback r hr) ?_ ?_
  · intro hback j hj
    exact (h.eq_of_held hback hr hj).1
  · intro hund home hlook
    exact h.own hund r hr hm home hlook

theorem held_move_home (h : Accounted codec t d) (hback : t.takesBack) (hr : d.active = some r) :
    (d.move r.streamId r.originalSinkName).ledger.held = [] := by
  rw [List.eq_nil_iff_forall_not_mem]
  intro j hj
  rcases SinkLedger.mem_held_move.mp hj with ⟨h', -⟩ | ⟨hj, h' | h'⟩
  · exact h.original hback r hr h'
  · exact h.original hback r hr h'
  · exact h' (h.eq_of_held hback hr hj).1

/-- The stream of the route, moved away by somebody, is taken again. -/
theorem move_again (h : Accounted codec t d) (hr : d.active = some r)
    (hm : r.routeMethod = .pulseMove) (hkey : d.keyOf r.streamId = some r.stableAppKey) :
    Accounted codec t (d.move r.streamId remoteInSink) where
  original := h.original
  recorded := h.recorded
  blank := h.blank
  held hback j hj := by
    obtain rfl : j = r.streamId := by
      rcases SinkLedger.mem_held_move.mp hj with ⟨-, h'⟩ | ⟨hj, -⟩
      · exact h'
      · exact (h.eq_of_held hback hr hj).1
    exact ⟨by simp [SinkSide.move], r, hr, rfl, hm, hkey⟩
  home hund j home hlook := by
    have hlook : d.ledger.homes.lookup j = some home := by
      obtain ⟨home', hhome'⟩ := Option.isSome_iff_exists.mp (h.living hund r hr hm hkey)
      have hlook : (d.ledger.move r.streamId _ remoteInSink).homes.lookup j = some home := hlook
      rw [SinkLedger.lookup_move_remote] at hlook
      simpa [hhome'] using hlook
    obtain ⟨hoff, hat⟩ := h.home hund j home hlook
    refine ⟨hoff, fun hj => ?_⟩
    have hjr : j ≠ r.streamId := fun hjr =>
      hj (SinkLedger.mem_held_move.mpr (.inl ⟨rfl, hjr⟩))
    have hj' : j ∉ d.ledger.held := fun hmem =>
      hj (SinkLedger.mem_held_move.mpr (.inr ⟨hmem, .inl rfl⟩))
    simp [SinkSide.move, hjr, hat hj']
  off hund j hj hnot := by
    have hjr : j ≠ r.streamId := fun hjr =>
      hnot (SinkLedger.mem_held_move.mpr (.inl ⟨rfl, hjr⟩))
    have hj' : j ∉ d.ledger.held := fun hmem =>
      hnot (SinkLedger.mem_held_move.mpr (.inr ⟨hmem, .inl rfl⟩))
    rcases SinkLedger.mem_moved_move.mp hj with hj | hj
    · exact absurd hj hjr
    · simpa [SinkSide.move, hjr] using h.off hund j hj hj'
  own hund r' hr' hm' home hlook := by
    obtain rfl := Option.some.inj (hr.symm.trans hr')
    obtain ⟨home', hhome'⟩ := Option.isSome_iff_exists.mp (h.living hund r hr hm hkey)
    have hlook : (d.ledger.move r.streamId _ remoteInSink).homes.lookup r.streamId = some home :=
      hlook
    rw [SinkLedger.lookup_move_remote] at hlook
    exact h.own hund r hr hm home (by simpa [hhome'] using hlook)
  journaled := h.journaled
  named := h.named
  restorable := h.restorable
  living hund r' hr' hm' _ := by
    obtain rfl := Option.some.inj (hr.symm.trans hr')
    show ((d.ledger.move r.streamId _ remoteInSink).homes.lookup r.streamId).isSome
    rw [SinkLedger.lookup_move_remote]
    split
    · rfl
    · exact h.living hund r hr hm hkey

/-- Where a free stream came from, once it is taken. -/
theorem lookup_take (h : Accounted codec t d) (hnone : d.active = none) (hfree : Free d c)
    (hund : t.undisturbed) (j : Nat) {home : String}
    (hlook : (d.move c.streamId remoteInSink).ledger.homes.lookup j = some home) :
    (j = c.streamId ∧ home = c.currentSinkName) ∨ (j ≠ c.streamId
      ∧ d.ledger.homes.lookup j = some home) := by
  have hheld := h.held_nil (t.undisturbed_takesBack hund) hnone
  have hlook : (d.ledger.move c.streamId ((d.sinkOf c.streamId).getD "") remoteInSink).homes.lookup
    j = some home := hlook
  rw [SinkLedger.lookup_move_remote, hfree.sink, Option.getD_some] at hlook
  split at hlook
  case isTrue hj => exact .inl ⟨hj.1, (Option.some.inj hlook).symm⟩
  case isFalse hnot =>
    by_cases hj : j = c.streamId
    · subst hj
      have hat := (h.home hund _ _ hlook).2 (by simp [hheld])
      rw [hfree.sink] at hat
      exact .inl ⟨rfl, (Option.some.inj hat).symm⟩
    · exact .inr ⟨hj, hlook⟩

/-- A free stream is taken and its route remembered and recorded. -/
theorem enter (h : Accounted codec t d) (hnone : d.active = none) (hfree : Free d c)
    {journal : Option JournalFile} (hrec : d.hasJournal = true →
      loadActiveRoute codec journal = some (c.route .pulseMove)) :
    Accounted codec t { d.move c.streamId remoteInSink with
      active := some (c.route .pulseMove), journal := journal } where
  original _ r hr := by
    obtain rfl := Option.some.inj hr
    exact hfree.off
  recorded hj r hr := by
    obtain rfl := Option.some.inj hr
    exact hrec hj
  blank _ _ hactive := by simp at hactive
  held hback j hj := by
    have hj : j ∈ (d.ledger.move c.streamId _ remoteInSink).held := hj
    obtain rfl : j = c.streamId := by
      rcases SinkLedger.mem_held_move.mp hj with ⟨-, h'⟩ | ⟨hj, -⟩
      · exact h'
      · simp [h.held_nil hback hnone] at hj
    exact ⟨by simp [SinkSide.move], _, rfl, rfl, rfl, hfree.key⟩
  home hund j home hlook := by
    rcases h.lookup_take hnone hfree hund j hlook with ⟨rfl, rfl⟩ | ⟨hj, hlook⟩
    · refine ⟨hfree.off, fun hj => ?_⟩
      exact absurd (SinkLedger.mem_held_move.mpr (.inl ⟨rfl, rfl⟩)) hj
    · obtain ⟨hoff, hat⟩ := h.home hund j home hlook
      refine ⟨hoff, fun _ => ?_⟩
      have hheld := h.held_nil (t.undisturbed_takesBack hund) hnone
      simp [SinkSide.move, hj, hat (by simp [hheld])]
  off hund j hj hnot := by
    have hjc : j ≠ c.streamId := fun hjc =>
      hnot (SinkLedger.mem_held_move.mpr (.inl ⟨rfl, hjc⟩))
    rcases SinkLedger.mem_moved_move.mp hj with hj | hj
    · exact absurd hj hjc
    · have hheld := h.held_nil (t.undisturbed_takesBack hund) hnone
      simpa [SinkSide.move, hjc] using h.off hund j hj (by simp [hheld])
  own hund r hr _ home hlook := by
    obtain rfl := Option.some.inj hr
    rcases h.lookup_take hnone hfree hund _ hlook with ⟨-, rfl⟩ | ⟨hj, -⟩
    · rfl
    · exact absurd rfl hj
  journaled := h.journaled
  named _ r hr _ := by
    obtain rfl := Option.some.inj hr
    exact hfree.named
  restorable _ r hr := by
    obtain rfl := Option.some.inj hr
    intro hlink
    cases hlink
  living hund r hr _ _ := by
    obtain rfl := Option.some.inj hr
    show ((d.ledger.move c.streamId _ remoteInSink).homes.lookup c.streamId).isSome
    rw [SinkLedger.lookup_move_remote]
    split
    · rfl
    · rename_i hnot
      simpa [Option.isSome_iff_ne_none] using hnot

/-- A free stream is taken and given back. -/
theorem return_taken (h : Accounted codec t d) (hnone : d.active = none) (hfree : Free d c) :
    Accounted codec t ((d.move c.streamId remoteInSink).move c.streamId c.currentSinkName) where
  original := h.original
  recorded := h.recorded
  blank := h.blank
  held hback j hj := by
    rcases SinkLedger.mem_held_move.mp hj with ⟨h', -⟩ | ⟨hj, h' | h'⟩
    · exact absurd h' hfree.off
    · exact absurd h' hfree.off
    · rcases SinkLedger.mem_held_move.mp hj with ⟨-, hj⟩ | ⟨hj, -⟩
      · exact absurd hj h'
      · simp [h.held_nil hback hnone] at hj
  home hund j home hlook := by
    rw [show ((d.move c.streamId remoteInSink).move c.streamId c.currentSinkName).ledger.homes
      = (d.move c.streamId remoteInSink).ledger.homes from
        SinkLedger.lookup_move_of_ne hfree.off] at hlook
    have hheld := h.held_nil (t.undisturbed_takesBack hund) hnone
    rcases h.lookup_take hnone hfree hund j hlook with ⟨rfl, rfl⟩ | ⟨hj, hlook⟩
    · exact ⟨hfree.off, fun _ => by simp [SinkSide.move]⟩
    · obtain ⟨hoff, hat⟩ := h.home hund j home hlook
      exact ⟨hoff, fun _ => by simp [SinkSide.move, hj, hat (by simp [hheld])]⟩
  off hund j hj _ := by
    have hheld := h.held_nil (t.undisturbed_takesBack hund) hnone
    by_cases hjc : j = c.streamId
    · subst hjc
      simp [SinkSide.move, hfree.off]
    · rcases SinkLedger.mem_moved_move.mp hj with hj | hj
      · exact absurd hj hjc
      · rcases SinkLedger.mem_moved_move.mp hj with hj | hj
        · exact absurd hj hjc
        · simpa [SinkSide.move, hjc] using h.off hund j hj (by simp [hheld])
  own _ r hr := by
    have hr : d.active = some r := hr
    simp [hnone] at hr
  journaled := h.journaled
  named := h.named
  restorable := h.restorable
  living _ r hr := by
    have hr : d.active = some r := hr
    simp [hnone] at hr

/-- A free stream is linked: its sink stays, and its route is remembered and recorded. -/
theorem enter_links (h : Accounted codec t d) (hnone : d.active = none) (hfree : Free d c)
    (hrest : Restorable (c.route .pipeWireLinks)) {journal : Option JournalFile} (hrec : d.hasJournal = true →
      loadActiveRoute codec journal = some (c.route .pipeWireLinks)) :
    Accounted codec t { d with active := some (c.route .pipeWireLinks), journal := journal } where
  original _ r hr := by
    obtain rfl := Option.some.inj hr
    exact hfree.off
  recorded hj r hr := by
    obtain rfl := Option.some.inj hr
    exact hrec hj
  blank _ _ hactive := by simp at hactive
  held hback j hj := by
    have hj : j ∈ d.ledger.held := hj
    simp [h.held_nil hback hnone] at hj
  home := h.home
  off := h.off
  own _ r hr hm := by
    obtain rfl := Option.some.inj hr
    simp [RouteCandidate.route] at hm
  journaled := h.journaled
  named _ r hr _ := by
    obtain rfl := Option.some.inj hr
    exact hfree.named
  restorable _ r hr := by
    obtain rfl := Option.some.inj hr
    exact hrest
  living _ r hr hm := by
    obtain rfl := Option.some.inj hr
    simp [RouteCandidate.route] at hm

end Accounted

end Translator.Routing
