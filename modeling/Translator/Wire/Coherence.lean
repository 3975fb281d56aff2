import Translator.Wire.Verdict

/-! The validator's tables and counters agree with each other, whatever is recorded, cancelled or
    validated: one invariant, `Coherent`, kept by every operation. -/

namespace Translator.Wire
open Schemes
namespace ProviderEventValidator

/-- Every table speaks about active utterances only, and the sets keep their bounds. -/
structure Tables (v : ProviderEventValidator) : Prop where
  active_le : v.inputCaptureNs.keys.length ≤ maxActiveUtterances
  terminal_le : v.terminalUtterances.card ≤ maxTerminalUtterances
  disjoint : ∀ u ∈ v.inputCaptureNs, u ∉ v.terminalUtterances
  complete_iff : ∀ u, u ∈ v.inputCompleteNs ↔ u ∈ v.inputCaptureNs
  wire_sub : ∀ u ∈ v.lastWireAudioSequence, u ∈ v.inputCaptureNs
  playable_sub : ∀ u ∈ v.lastPlayableAudioSequence, u ∈ v.inputCaptureNs
  cancel_sub : ∀ u ∈ v.cancelPending, u ∈ v.inputCaptureNs

/-- The session is open once an event has been counted, and every audio counter lags behind the
    event counter: the opening and each frame took an event sequence of their own. -/
structure Counters (v : ProviderEventValidator) : Prop where
  opened_iff : v.opened = v.lastEventSequence.isSome
  positive : ∀ s, v.lastEventSequence = some s → 1 ≤ s.toNat
  lag : ∀ u p, v.lastWireAudioSequence.lookup u = some p →
    ∃ s, v.lastEventSequence = some s ∧ p.toNat + 2 ≤ s.toNat

structure Coherent (v : ProviderEventValidator) : Prop extends Tables v, Counters v

variable {v w : ProviderEventValidator} {event : Event} {u : Uuid} {n : UInt64}

theorem coherent_new (contract : ProviderSessionContract) : Coherent (new contract) where
  active_le := by simp [new]
  terminal_le := by simp [new]
  disjoint := by simp [new]
  complete_iff := by simp [new]
  wire_sub := by simp [new]
  playable_sub := by simp [new]
  cancel_sub := by simp [new]
  opened_iff := rfl
  positive := by simp [new]
  lag := by simp [new]

/-! ### Updates of the tables -/

theorem tables_congr (h : Tables v) (hc : w.inputCaptureNs = v.inputCaptureNs)
    (hd : w.inputCompleteNs = v.inputCompleteNs)
    (hw : w.lastWireAudioSequence = v.lastWireAudioSequence)
    (hp : w.lastPlayableAudioSequence = v.lastPlayableAudioSequence)
    (ht : w.terminalUtterances = v.terminalUtterances)
    (hx : ∀ u ∈ w.cancelPending, u ∈ v.cancelPending) : Tables w where
  active_le := hc ▸ h.active_le
  terminal_le := ht ▸ h.terminal_le
  disjoint := by rw [hc, ht]; exact h.disjoint
  complete_iff := by rw [hc, hd]; exact h.complete_iff
  wire_sub := by rw [hc, hw]; exact h.wire_sub
  playable_sub := by rw [hc, hp]; exact h.playable_sub
  cancel_sub := fun u hu => hc ▸ h.cancel_sub u (hx u hu)

theorem tables_clear (h : Tables v) : Tables (v.clearNoSpeechLatency event) := by
  refine tables_congr h ?_ ?_ ?_ ?_ ?_ ?_ <;> simp

theorem tables_settle (h : Tables v) (path : FinalPath) : Tables (v.settle u path) := by
  cases path with
  | cancelled => exact tables_congr h rfl rfl rfl rfl rfl fun _ hu => Finset.mem_of_mem_erase hu
  | overflow => exact tables_congr h rfl rfl rfl rfl rfl fun _ hu => hu
  | noSpeech => exact tables_congr h rfl rfl rfl rfl rfl fun _ hu => hu
  | plain => exact tables_congr h rfl rfl rfl rfl rfl fun _ hu => hu

theorem tables_hearWire (h : Tables v) (hu : u ∈ v.inputCaptureNs) : Tables (v.hearWire u n) := by
  refine { h with wire_sub := fun x hx => ?_ }
  rcases AList.mem_insert (s := v.lastWireAudioSequence) |>.mp hx with rfl | hx
  · exact hu
  · exact h.wire_sub x hx

theorem tables_play (h : Tables v) (hu : u ∈ v.inputCaptureNs) : Tables (v.play u n) := by
  refine { h with playable_sub := fun x hx => ?_ }
  rcases AList.mem_insert (s := v.lastPlayableAudioSequence) |>.mp hx with rfl | hx
  · exact hu
  · exact h.playable_sub x hx

theorem tables_retire (h : Tables v) (hroom : v.terminalUtterances.card < maxTerminalUtterances) :
    Tables (v.retire u) := by
  obtain ⟨hle, htle, hdis, hcomp, hwire, hplay, hcan⟩ := h
  refine ⟨(Table.length_keys_erase_le _ _).trans hle, ?_, ?_, ?_, ?_, ?_, ?_⟩
  · exact (Finset.card_insert_le _ _).trans hroom
  · intro x hx ht
    obtain ⟨hne, hx⟩ := AList.mem_erase.mp hx
    rcases Finset.mem_insert.mp ht with rfl | ht
    · exact hne rfl
    · exact hdis x hx ht
  · intro x; exact AList.mem_erase.trans ((and_congr_right fun _ => hcomp x).trans AList.mem_erase.symm)
  · intro x hx
    obtain ⟨hne, hx⟩ := AList.mem_erase.mp hx
    exact AList.mem_erase.mpr ⟨hne, hwire x hx⟩
  · intro x hx
    obtain ⟨hne, hx⟩ := AList.mem_erase.mp hx
    exact AList.mem_erase.mpr ⟨hne, hplay x hx⟩
  · intro x hx
    obtain ⟨hne, hx⟩ := Finset.mem_erase.mp hx
    exact AList.mem_erase.mpr ⟨hne, hcan x hx⟩

theorem settle_terminal (path : FinalPath) :
    (v.settle u path).terminalUtterances = v.terminalUtterances := by cases path <;> rfl

/-- Every verdict keeps the tables. -/
theorem tables_verdict {nowNs : Nat} {r : Outcome ProviderValidationError Unit} (h : Tables v)
    (hv : Verdict v event nowNs (r, w)) (hnp : r ≠ .panic) : Tables w := by
  cases hv with
  | turnedAway _ _ => exact h
  | refused _ _ _ => exact tables_clear h
  | cancelledAudio a u _ _ hc _ _ => exact tables_hearWire h (h.cancel_sub u hc)
  | expiredAudio a u c _ _ _ _ hact _ _ _ _ _ =>
    exact tables_hearWire (tables_clear h) (by simpa using hact.1)
  | playedAudio a u c _ _ _ _ hact _ _ _ _ =>
    have hmem : u ∈ (v.clearNoSpeechLatency event).inputCaptureNs := by simpa using hact.1
    exact tables_play (tables_hearWire (tables_clear h) hmem) hmem
  | opened _ _ _ => exact tables_congr (tables_clear h) rfl rfl rfl rfl rfl fun _ hu => hu
  | noted _ _ _ _ _ _ => exact tables_clear h
  | latency _ _ _ _ _ _ => exact tables_congr h rfl rfl rfl rfl rfl fun _ hu => hu
  | overflowError _ _ _ _ _ _ _ _ _ =>
    exact tables_congr (tables_clear h) rfl rfl rfl rfl rfl fun _ hu => hu
  | noSpeechError _ _ _ _ _ _ _ _ _ _ => exact tables_congr h rfl rfl rfl rfl rfl fun _ hu => hu
  | ended path f u _ _ _ hroom =>
    exact tables_retire (tables_settle h path) (by rwa [settle_terminal])
  | exhausted path f u _ _ _ _ =>
    exact tables_congr (tables_settle h path) rfl rfl rfl rfl rfl fun _ hu => hu
  | closed _ _ _ => exact tables_congr (tables_clear h) rfl rfl rfl rfl rfl fun _ hu => hu
  | panicked _ _ _ _ _ _ => exact absurd rfl hnp

/-! ### Updates of the counters -/

theorem counters_congr (h : Counters v) (ho : w.opened = v.opened)
    (hl : w.lastEventSequence = v.lastEventSequence)
    (hw : ∀ u p, w.lastWireAudioSequence.lookup u = some p →
      v.lastWireAudioSequence.lookup u = some p) : Counters w where
  opened_iff := by rw [ho, hl]; exact h.opened_iff
  positive := by rw [hl]; exact h.positive
  lag := fun u p hp => by rw [hl]; exact h.lag u p (hw u p hp)

theorem nextSequence_some {s : UInt64} (hs : v.lastEventSequence = some s) :
    v.NextSequence n ↔ s.toNat < n.toNat := by
  simp only [NextSequence, hs, UInt64.lt_iff_toNat_lt]

/-- Counting an event keeps the counters when no audio counter moved further than that event. -/
theorem counters_see (h : Counters v) (hn : v.NextSequence n) (ho : w.opened = true)
    (hw : ∀ u p, w.lastWireAudioSequence.lookup u = some p →
      v.lastWireAudioSequence.lookup u = some p ∨ (v.opened = true ∧ v.NextAudio u p)) :
    Counters (w.see n) := by
  have hpos : 1 ≤ n.toNat := by
    unfold NextSequence at hn
    split at hn
    · subst hn; rfl
    · rw [UInt64.lt_iff_toNat_lt] at hn; omega
  refine ⟨ho, fun s hs => Option.some.inj hs ▸ hpos, fun u p hp => ⟨n, rfl, ?_⟩⟩
  rcases hw u p hp with hp | ⟨hop, hp⟩
  · obtain ⟨s, hs, hle⟩ := h.lag u p hp
    have := (nextSequence_some hs).mp hn
    omega
  · -- the counter moved by this event, which comes after the one that moved it last
    obtain ⟨s, hs⟩ := Option.isSome_iff_exists.mp (h.opened_iff ▸ hop)
    have hs1 := h.positive s hs
    have hlt := (nextSequence_some hs).mp hn
    cases hq : v.lastWireAudioSequence.lookup u with
    | none => simp only [NextAudio, hq] at hp; subst hp; simp; omega
    | some q =>
      obtain ⟨s', hs', hle⟩ := h.lag u q hq
      obtain rfl : s = s' := Option.some.inj (hs.symm.trans hs')
      simp only [NextAudio, hq] at hp
      omega

theorem retire_wire (x : Uuid) {p : UInt64}
    (hp : (v.retire u).lastWireAudioSequence.lookup x = some p) :
    v.lastWireAudioSequence.lookup x = some p := by
  rw [retire, Table.lookup_erase_if] at hp
  split at hp
  · cases hp
  · exact hp

theorem settle_wire (path : FinalPath) :
    (v.settle u path).lastWireAudioSequence = v.lastWireAudioSequence := by cases path <;> rfl

theorem settle_opened (path : FinalPath) : (v.settle u path).opened = v.opened := by
  cases path <;> rfl

theorem settle_last (path : FinalPath) :
    (v.settle u path).lastEventSequence = v.lastEventSequence := by cases path <;> rfl

theorem hearWire_wire (x : Uuid) {p : UInt64}
    (hp : (v.hearWire u n).lastWireAudioSequence.lookup x = some p) :
    v.lastWireAudioSequence.lookup x = some p ∨ x = u ∧ p = n := by
  rw [hearWire, Table.lookup_insert_if] at hp
  split at hp
  · next hx => exact .inr ⟨hx, (Option.some.inj hp).symm⟩
  · exact .inl hp

/-- Every verdict, followed by the counting of the event, keeps the counters. -/
theorem counters_verdict {nowNs : Nat} {r : Outcome ProviderValidationError Unit} (h : Counters v)
    (hord : v.InOrder event) (hv : Verdict v event nowNs (r, w)) (hnp : r ≠ .panic) :
    Counters (if advancesSequence r then w.see event.eventSequence else w) := by
  obtain ⟨-, hopen, hn⟩ := hord
  have hkeep : ∀ w : ProviderEventValidator, w.opened = true →
      w.lastWireAudioSequence = v.lastWireAudioSequence →
      Counters (w.see event.eventSequence) := fun w ho hw =>
    counters_see h hn ho fun u p hp => .inl (by rwa [← hw])
  have hhear : ∀ a u, event = .audioDelta a → v.NextAudio u a.sequence →
      ∀ w : ProviderEventValidator, w.opened = v.opened →
        (∀ x p, w.lastWireAudioSequence.lookup x = some p →
          v.lastWireAudioSequence.lookup x = some p ∨ x = u ∧ p = a.sequence) →
        Counters (w.see event.eventSequence) := by
    rintro a u rfl hna w ho hw
    refine counters_see h hn (ho.trans hopen) fun x p hp => ?_
    rcases hw x p hp with hp | ⟨rfl, rfl⟩
    · exact .inl hp
    · exact .inr ⟨hopen, hna⟩
  cases hv with
  | turnedAway e he => rw [not_advances he]; exact h
  | refused e he _ =>
    rw [not_advances he]
    exact counters_congr h (by simp) (by simp) (by simp)
  | cancelledAudio a u ha _ _ hna _ => exact hhear a u ha hna _ rfl fun x p => hearWire_wire x
  | expiredAudio a u c ha _ _ _ _ hna _ _ _ _ =>
    refine hhear a u ha hna _ (by simp [hearWire]) fun x p hp => ?_
    simpa using hearWire_wire x hp
  | playedAudio a u c ha _ _ _ _ hna _ _ _ =>
    refine hhear a u ha hna _ (by simp [hearWire, play]) fun x p hp => ?_
    simpa using hearWire_wire x hp
  | opened _ _ _ => exact hkeep _ rfl (by simp)
  | noted _ _ _ _ hop _ => exact hkeep _ (by simp [hopen, hop]) (by simp)
  | latency _ _ hl _ _ _ => subst hl; exact hkeep _ hopen rfl
  | overflowError _ _ hx _ _ _ _ _ _ => subst hx; exact hkeep _ (clear_opened.trans hopen) (by simp)
  | noSpeechError _ _ hx _ _ _ _ _ _ _ => subst hx; exact hkeep _ hopen rfl
  | ended path f u hf _ _ _ =>
    subst hf
    refine counters_see h hn ((settle_opened path).trans hopen) fun x p hp => .inl ?_
    have := retire_wire x hp
    rwa [settle_wire] at this
  | exhausted path f u _ _ _ _ =>
    exact counters_congr h (settle_opened path) (settle_last path)
      (by intro x p hp; rwa [← settle_wire path])
  | closed c hc _ => subst hc; exact hkeep _ (clear_opened.trans hopen) (by simp)
  | panicked _ _ _ _ _ _ => exact absurd rfl hnp

/-! ### The operations -/

/-- A coherent validator cannot panic. -/
theorem coherent_no_panic (h : Coherent v) (u : Uuid) : ¬ v.PanicsOn u := by
  rintro (⟨p, hp, hbig⟩ | ⟨hact, hnone⟩)
  · obtain ⟨s, -, hs⟩ := h.lag u p hp
    have := s.toNat_lt
    omega
  · have hmem := (h.complete_iff u).mpr hact.1
    rw [Table.mem_iff_isSome, hnone] at hmem
    cases hmem

theorem verdict_no_panic {nowNs : Nat} {r : Outcome ProviderValidationError Unit}
    (h : Coherent v) (hv : Verdict v event nowNs (r, w)) : r ≠ .panic := by
  cases hv with
  | panicked a u _ _ _ hp => exact absurd hp (coherent_no_panic h u)
  | _ => simp

theorem tables_see (h : Tables v) : Tables (v.see n) :=
  tables_congr h rfl rfl rfl rfl rfl fun _ hu => hu

theorem validate_no_panic (h : Coherent v) (event : ProviderEvent) (nowNs : Nat) :
    (v.validate event nowNs).1 ≠ .panic := by
  rcases validate_cases v event nowNs with ⟨e, -, heq⟩ | ⟨ev, r, w, -, -, -, hv, heq⟩ <;> rw [heq]
  · simp
  · exact verdict_no_panic h hv

theorem coherent_validate (h : Coherent v) (event : ProviderEvent) (nowNs : Nat) :
    Coherent (v.validate event nowNs).2 := by
  rcases validate_cases v event nowNs with ⟨e, -, heq⟩ | ⟨ev, r, w, -, hord, -, hv, heq⟩ <;> rw [heq]
  · exact h
  · have hnp := verdict_no_panic h hv
    have ht := tables_verdict h.toTables hv hnp
    have hc := counters_verdict h.toCounters hord hv hnp
    dsimp only
    split
    · next ha => rw [if_pos ha] at hc; exact ⟨tables_see ht, hc⟩
    · next ha => rw [if_neg ha] at hc; exact ⟨ht, hc⟩

/-! ### What validation does to the tables of utterances -/

/-- No utterance came or went; an utterance that has been played stays played. -/
structure Kept (v w : ProviderEventValidator) : Prop where
  contract : w.contract = v.contract
  capture : w.inputCaptureNs = v.inputCaptureNs
  complete : w.inputCompleteNs = v.inputCompleteNs
  cancel : w.cancelPending = v.cancelPending
  terminal : w.terminalUtterances = v.terminalUtterances
  played : ∀ u, u ∈ v.lastPlayableAudioSequence → u ∈ w.lastPlayableAudioSequence

/-- Exactly `u` ended. -/
structure Retired (v : ProviderEventValidator) (u : Uuid) (w : ProviderEventValidator) : Prop where
  contract : w.contract = v.contract
  capture : w.inputCaptureNs = v.inputCaptureNs.erase u
  complete : w.inputCompleteNs = v.inputCompleteNs.erase u
  cancel : w.cancelPending = v.cancelPending.erase u
  terminal : w.terminalUtterances = insert u v.terminalUtterances
  played : w.lastPlayableAudioSequence = v.lastPlayableAudioSequence.erase u

theorem kept_refl (v : ProviderEventValidator) : Kept v v :=
  ⟨rfl, rfl, rfl, rfl, rfl, fun _ h => h⟩

theorem kept_clear : Kept v (v.clearNoSpeechLatency event) := by
  refine ⟨?_, ?_, ?_, ?_, ?_, ?_⟩ <;> simp

theorem retired_settle (path : FinalPath) : Retired v u ((v.settle u path).retire u) := by
  cases path <;> refine ⟨rfl, rfl, rfl, ?_, rfl, rfl⟩ <;> simp [settle, retire]

/-- A verdict closes the session, keeps the utterances, or ends the one a final names. -/
theorem verdict_frame {nowNs : Nat} {r : Outcome ProviderValidationError Unit}
    (hv : Verdict v event nowNs (r, w)) (hnp : r ≠ .panic) :
    (w.closed = true ∧ w.contract = v.contract) ∨ Kept v w
      ∨ ∃ f u, event = .utteranceFinal f ∧ f.utteranceId = some u ∧ r = .ok () ∧ Retired v u w := by
  cases hv with
  | turnedAway _ _ => exact .inr (.inl (kept_refl v))
  | refused _ _ _ => exact .inr (.inl kept_clear)
  | cancelledAudio _ _ _ _ _ _ _ => exact .inr (.inl ⟨rfl, rfl, rfl, rfl, rfl, fun _ h => h⟩)
  | expiredAudio _ _ _ _ _ _ _ _ _ _ _ _ _ =>
    exact .inr (.inl (by refine ⟨?_, ?_, ?_, ?_, ?_, ?_⟩ <;> simp [hearWire]))
  | playedAudio a u c _ _ _ _ _ _ _ _ _ =>
    right; left
    refine ⟨?_, ?_, ?_, ?_, ?_, ?_⟩ <;> simp [hearWire, play]
    exact fun x hx => .inr hx
  | opened _ _ _ => exact .inr (.inl (by refine ⟨?_, ?_, ?_, ?_, ?_, ?_⟩ <;> simp))
  | noted _ _ _ _ _ _ => exact .inr (.inl kept_clear)
  | latency _ _ _ _ _ _ => exact .inr (.inl ⟨rfl, rfl, rfl, rfl, rfl, fun _ h => h⟩)
  | overflowError _ _ _ _ _ _ _ _ _ =>
    exact .inr (.inl (by refine ⟨?_, ?_, ?_, ?_, ?_, ?_⟩ <;> simp))
  | noSpeechError _ _ _ _ _ _ _ _ _ _ => exact .inr (.inl ⟨rfl, rfl, rfl, rfl, rfl, fun _ h => h⟩)
  | ended path f u hf hid _ _ =>
    exact .inr (.inr ⟨f, u, hf, hid, rfl, retired_settle path⟩)
  | exhausted path _ _ _ _ _ _ => exact .inl ⟨rfl, by cases path <;> rfl⟩
  | closed _ _ _ => exact .inl ⟨rfl, by simp⟩
  | panicked _ _ _ _ _ _ => exact absurd rfl hnp

/-- Only an accepted frame and an accepted final touch the playable counters. -/
theorem verdict_playable {nowNs : Nat} {r : Outcome ProviderValidationError Unit}
    (hv : Verdict v event nowNs (r, w)) (hnp : r ≠ .panic)
    (ha : ∀ a, event = .audioDelta a → r ≠ .ok ())
    (hf : ∀ f, event = .utteranceFinal f → r ≠ .ok ()) :
    w.lastPlayableAudioSequence = v.lastPlayableAudioSequence := by
  cases hv with
  | playedAudio a _ _ hev _ _ _ _ _ _ _ _ => exact absurd rfl (ha a hev)
  | ended _ f _ hev _ _ _ => exact absurd rfl (hf f hev)
  | exhausted path _ _ _ _ _ _ => cases path <;> rfl
  | panicked _ _ _ _ _ _ => exact absurd rfl hnp
  | _ => simp [hearWire]

theorem kept_see (h : Kept v w) : Kept v (w.see n) :=
  ⟨h.contract, h.capture, h.complete, h.cancel, h.terminal, h.played⟩

theorem validate_frame (h : Coherent v) {event : ProviderEvent} {nowNs : Nat}
    {r : Outcome ProviderValidationError Unit} (hv : v.validate event nowNs = (r, w)) :
    (w.closed = true ∧ w.contract = v.contract) ∨ Kept v w
      ∨ ∃ f u, event = some (.utteranceFinal f) ∧ f.utteranceId = some u ∧ r = .ok ()
        ∧ Retired v u w := by
  rcases validate_cases v event nowNs with ⟨e, -, heq⟩ | ⟨ev, r', w', rfl, -, -, hver, heq⟩
  · rw [heq] at hv; cases hv; exact .inr (.inl (kept_refl v))
  · rw [heq] at hv
    obtain ⟨rfl, rfl⟩ := Prod.mk.inj hv
    rcases verdict_frame hver (verdict_no_panic h hver) with ⟨hc, hk⟩ | hk | ⟨f, u, rfl, hid, rfl, hr⟩
    · left; split <;> exact ⟨hc, hk⟩
    · right; left
      split
      · exact kept_see hk
      · exact hk
    · exact .inr (.inr ⟨f, u, rfl, hid, rfl,
        ⟨hr.contract, hr.capture, hr.complete, hr.cancel, hr.terminal, hr.played⟩⟩)

theorem validate_playable (h : Coherent v) {nowNs : Nat} {r : Outcome ProviderValidationError Unit}
    (hv : v.validate (some event) nowNs = (r, w)) (ha : ∀ a, event = .audioDelta a → r ≠ .ok ())
    (hf : ∀ f, event = .utteranceFinal f → r ≠ .ok ()) :
    w.lastPlayableAudioSequence = v.lastPlayableAudioSequence := by
  rcases validate_cases v (some event) nowNs with ⟨e, -, heq⟩ | ⟨ev, r', w', hev, -, -, hver, heq⟩
  · rw [heq] at hv; cases hv; rfl
  · cases hev
    rw [heq] at hv
    obtain ⟨rfl, rfl⟩ := Prod.mk.inj hv
    have := verdict_playable hver (verdict_no_panic h hver) ha hf
    split <;> exact this

/-- The wire counters move with a frame that is in order, for its utterance only, and go with an
    accepted final. -/
theorem verdict_wire {nowNs : Nat} {r : Outcome ProviderValidationError Unit}
    (hv : Verdict v event nowNs (r, w)) (hnp : r ≠ .panic) :
    w.lastWireAudioSequence = v.lastWireAudioSequence
      ∨ (∃ a u, event = .audioDelta a ∧ a.utteranceId = some u
        ∧ (r = .ok () ∨ r = .err .expiredAudio ∨ r = .err .cancelledAudio ∧ u ∈ v.cancelPending)
        ∧ w.lastWireAudioSequence = v.lastWireAudioSequence.insert u a.sequence)
      ∨ ∃ f u, event = .utteranceFinal f ∧ f.utteranceId = some u ∧ r = .ok ()
        ∧ w.lastWireAudioSequence = v.lastWireAudioSequence.erase u := by
  cases hv with
  | cancelledAudio a u ha hid hc _ _ =>
    exact .inr (.inl ⟨a, u, ha, hid, .inr (.inr ⟨rfl, hc⟩), rfl⟩)
  | expiredAudio a u _ ha hid _ _ _ _ _ _ _ _ =>
    exact .inr (.inl ⟨a, u, ha, hid, .inr (.inl rfl), by simp [hearWire]⟩)
  | playedAudio a u _ ha hid _ _ _ _ _ _ _ =>
    exact .inr (.inl ⟨a, u, ha, hid, .inl rfl, by simp [hearWire, play]⟩)
  | ended path f u hf hid _ _ =>
    exact .inr (.inr ⟨f, u, hf, hid, rfl, by cases path <;> rfl⟩)
  | exhausted path _ _ _ _ _ _ => exact .inl (by cases path <;> rfl)
  | panicked _ _ _ _ _ _ => exact absurd rfl hnp
  | _ => exact .inl (by simp)

theorem validate_wire (h : Coherent v) {nowNs : Nat} {r : Outcome ProviderValidationError Unit}
    (hv : v.validate (some event) nowNs = (r, w)) :
    w.lastWireAudioSequence = v.lastWireAudioSequence
      ∨ (∃ a u, event = .audioDelta a ∧ a.utteranceId = some u
        ∧ (r = .ok () ∨ r = .err .expiredAudio ∨ r = .err .cancelledAudio ∧ u ∈ v.cancelPending)
        ∧ w.lastWireAudioSequence = v.lastWireAudioSequence.insert u a.sequence)
      ∨ ∃ f u, event = .utteranceFinal f ∧ f.utteranceId = some u ∧ r = .ok ()
        ∧ w.lastWireAudioSequence = v.lastWireAudioSequence.erase u := by
  rcases validate_cases v (some event) nowNs with ⟨e, -, heq⟩ | ⟨ev, r', w', hev, -, -, hver, heq⟩
  · rw [heq] at hv; cases hv; exact .inl rfl
  · cases hev
    rw [heq] at hv
    obtain ⟨rfl, rfl⟩ := Prod.mk.inj hv
    have := verdict_wire hver (verdict_no_panic h hver)
    split <;> exact this

/-- An open validator stays open. -/
theorem validate_opened {nowNs : Nat} {r : Outcome ProviderValidationError Unit}
    (hv : v.validate (some event) nowNs = (r, w)) (hnp : r ≠ .panic) (ho : v.opened = true) :
    w.opened = true := by
  rcases validate_cases v (some event) nowNs with ⟨e, -, heq⟩ | ⟨ev, r', w', hev, -, -, hver, heq⟩
  · rw [heq] at hv; cases hv; exact ho
  · cases hev
    rw [heq] at hv
    obtain ⟨rfl, rfl⟩ := Prod.mk.inj hv
    have hw : w'.opened = true := by
      cases hver with
      | ended path _ _ _ _ _ _ => cases path <;> exact ho
      | exhausted path _ _ _ _ _ _ => cases path <;> exact ho
      | panicked _ _ _ _ _ _ => exact absurd rfl hnp
      | opened _ _ _ => rfl
      | _ => simpa [hearWire, play] using ho
    split <;> exact hw

theorem mem_orInsert {t : Table Uuid Nat} {ns : Nat} {x : Uuid} :
    x ∈ orInsert t u ns ↔ x = u ∨ x ∈ t := by
  unfold orInsert
  split
  · next h => exact ⟨.inr, fun hx => hx.elim (fun e => e ▸ h) id⟩
  · exact AList.mem_insert (s := t)

/-- `record_input` is refused or enters an utterance that has not ended, within the capacity. -/
theorem recordInput_cases (v : ProviderEventValidator) (u : Uuid) (ns : Nat) :
    (∃ e, e.documented = false ∧ v.recordInput u ns = (.err e, v))
      ∨ v.opened = true ∧ v.closed = false ∧ u ∉ v.terminalUtterances
        ∧ (u ∈ v.inputCaptureNs ∨ v.inputCaptureNs.keys.length < maxActiveUtterances)
        ∧ v.recordInput u ns = (.ok (),
          { v with
            inputCaptureNs := orInsert v.inputCaptureNs u ns
            inputCompleteNs := orInsert v.inputCompleteNs u ns }) := by
  unfold recordInput
  split
  · exact .inl ⟨_, rfl, rfl⟩
  split
  · exact .inl ⟨_, rfl, rfl⟩
  split
  · exact .inl ⟨_, rfl, rfl⟩
  split
  · exact .inl ⟨_, rfl, rfl⟩
  · next ho hc ht hcap =>
    refine .inr ⟨by simpa using ho, by simpa using hc, ht, ?_, rfl⟩
    by_cases hu : u ∈ v.inputCaptureNs
    · exact .inl hu
    · exact .inr (Nat.lt_of_not_le fun hle => hcap ⟨hu, hle⟩)

theorem coherent_recordInput (h : Coherent v) (u : Uuid) (ns : Nat) :
    Coherent (v.recordInput u ns).2 := by
  rcases recordInput_cases v u ns with ⟨e, -, heq⟩ | ⟨-, -, hterm, hroom, heq⟩ <;> rw [heq]
  · exact h
  · refine { h with active_le := ?_, disjoint := ?_, complete_iff := ?_, wire_sub := ?_,
                    playable_sub := ?_, cancel_sub := ?_ }
    · dsimp only [orInsert]
      split
      · exact h.active_le
      · next hu =>
        rw [Table.length_keys_insert_of_not_mem _ hu]
        exact hroom.resolve_left hu
    · intro x hx
      rcases mem_orInsert.mp hx with rfl | hx
      · exact hterm
      · exact h.disjoint x hx
    · intro x; rw [mem_orInsert, mem_orInsert, h.complete_iff]
    · exact fun x hx => mem_orInsert.mpr (.inr (h.wire_sub x hx))
    · exact fun x hx => mem_orInsert.mpr (.inr (h.playable_sub x hx))
    · exact fun x hx => mem_orInsert.mpr (.inr (h.cancel_sub x hx))

/-- `record_end_of_utterance` is refused or moves the completion time of an entered utterance. -/
theorem recordEndOfUtterance_cases (v : ProviderEventValidator) (u : Uuid) (ns : Nat) :
    (∃ e, e.documented = false ∧ v.recordEndOfUtterance u ns = (.err e, v))
      ∨ v.opened = true ∧ v.closed = false ∧ u ∈ v.inputCompleteNs
        ∧ v.recordEndOfUtterance u ns
          = (.ok (), { v with inputCompleteNs := v.inputCompleteNs.insert u ns }) := by
  unfold recordEndOfUtterance
  split
  · exact .inl ⟨_, rfl, rfl⟩
  split
  · exact .inl ⟨_, rfl, rfl⟩
  split
  · next ho hc hu => exact .inr ⟨by simpa using ho, by simpa using hc, hu, rfl⟩
  · exact .inl ⟨_, rfl, rfl⟩

theorem coherent_recordEndOfUtterance (h : Coherent v) (u : Uuid) (ns : Nat) :
    Coherent (v.recordEndOfUtterance u ns).2 := by
  rcases recordEndOfUtterance_cases v u ns with ⟨e, -, heq⟩ | ⟨-, -, hu, heq⟩ <;> rw [heq]
  · exact h
  · refine { h with complete_iff := fun x => ?_ }
    rw [AList.mem_insert, h.complete_iff]
    exact ⟨fun hx => hx.elim (fun e => e ▸ (h.complete_iff u).mp hu) id, .inr⟩

/-- `record_cancel_requested` is refused or marks an active utterance. -/
theorem recordCancelRequested_cases (v : ProviderEventValidator) (u : Uuid) :
    (∃ e, e.documented = false ∧ v.recordCancelRequested u = (.err e, v))
      ∨ v.opened = true ∧ v.closed = false ∧ v.Active u
        ∧ v.recordCancelRequested u
          = (.ok (), { v with cancelPending := insert u v.cancelPending }) := by
  unfold recordCancelRequested canRecordCancelRequested Active
  cases ho : v.opened <;> cases hc : v.closed <;> by_cases ht : u ∈ v.terminalUtterances <;>
    by_cases hu : u ∈ v.inputCaptureNs <;> simp [ht, hu, ProviderValidationError.documented]

theorem coherent_recordCancelRequested (h : Coherent v) (u : Uuid) :
    Coherent (v.recordCancelRequested u).2 := by
  rcases recordCancelRequested_cases v u with ⟨e, -, heq⟩ | ⟨-, -, hact, heq⟩ <;> rw [heq]
  · exact h
  · refine { h with cancel_sub := fun x hx => ?_ }
    rcases Finset.mem_insert.mp hx with rfl | hx
    · exact hact.1
    · exact h.cancel_sub x hx

theorem coherent_setDebugTextEnabled (h : Coherent v) (b : Bool) :
    Coherent (v.setDebugTextEnabled b) := { h with }

end ProviderEventValidator

end Translator.Wire
