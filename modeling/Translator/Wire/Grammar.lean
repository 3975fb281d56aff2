import Translator.Schemes.Run
import Translator.Wire.Accepts
import Translator.Wire.Coherence

/-! The language of event streams a session may speak, without a validator: which event may come
    next is read off the events before it. `Tracks` ties a validator to the stream it has seen, and
    `validate_follows` says that a validator in step with a stream accepts whatever may come next. -/

namespace Translator.Wire
open Schemes

namespace Event

/-- The utterance a final ends. -/
def finalOf : Event → Option Uuid
  | utteranceFinal f => f.utteranceId
  | _ => none

/-- The audio sequence of a frame of `u`. -/
def audioOf (u : Uuid) : Event → Option UInt64
  | audioDelta a => if a.utteranceId = some u then some a.sequence else none
  | _ => none

/-- The utterance an error with this code speaks of. -/
def errorOf (code : SafeErrorCode) : Event → Option Uuid
  | error x => if x.code = code.code then x.utteranceId.join else none
  | _ => none

/-- The utterance a latency report shows to have got no further than the recogniser. -/
def recognisedOnly : Event → Option Uuid
  | latency l =>
    if l.asrFirstTextMs.isSome && l.asrFinalTextMs.isSome && l.mtFirstTextMs.isNone
        && l.ttsFirstAudioMs.isNone then
      l.utteranceId.join
    else none
  | _ => none

end Event

/-- The utterances whose finals stand in the stream. -/
def ended (pre : List Event) : Finset Uuid := (pre.filterMap Event.finalOf).toFinset

/-- The audio sequence `u` has got to in the stream. -/
def lastAudio (u : Uuid) (pre : List Event) : Option UInt64 :=
  (pre.filterMap (Event.audioOf u)).getLast?

/-- The utterance the last event of the stream is about, in the sense of `about`. -/
def atLast (about : Event → Option Uuid) (pre : List Event) : Option Uuid := pre.getLast?.bind about

/-- `n` is the audio sequence after `last`. -/
def NextAfter (last : Option UInt64) (n : UInt64) : Prop :=
  match last with
  | none => n = 0
  | some previous => n.toNat = previous.toNat + 1

/-- The contents of an event fit the contract and the stream before it. -/
def Content (contract : ProviderSessionContract) (pre : List Event) : Event → Prop
  | .sessionOpened o => ∃ caps, o.negotiatedInputFormat = some contract.inputFormat
      ∧ o.negotiatedOutputFormat = some contract.outputFormat ∧ o.capabilities = some caps
      ∧ caps.audioOutput = true ∧ caps.cancellation = true
      ∧ caps.cloudEgress = decide (contract.providerId = .openai)
  | .audioDelta a => (ProviderEventValidator.new contract).MatchesOutput a
      ∧ ∀ u, a.utteranceId = some u → NextAfter (lastAudio u pre) a.sequence
  | .transcriptDelta _ | .translationDelta _ => contract.debugTextEnabled = true
  | .latency _ => True
  | .health h => (ProviderEventValidator.new contract).validateHealth h = .ok ()
  | .error x => ∃ code, x.code = SafeErrorCode.code code ∧ code ≠ .unspecified
      ∧ x.safeMessage = safeErrorMessage code
      ∧ (code = .queueOverflow → ∃ u, x.utteranceId = some (some u))
      ∧ (code = .noSpeech → ∃ u, x.utteranceId = some (some u)
        ∧ atLast Event.recognisedOnly pre = some u)
  | .utteranceFinal f => (∃ o, f.outcome = UtteranceOutcome.code o ∧ o ≠ .unspecified)
      ∧ ∀ u, f.utteranceId = some u → f.finalAudioSequence = lastAudio u pre
  | .sessionClosed _ => True

/-- The event may come next in a session of this contract. -/
structure Follows (contract : ProviderSessionContract) (pre : List Event) (e : Event) : Prop where
  first : e.isSessionOpened = pre.isEmpty
  increasing : match pre.getLast? with
    | none => e.eventSequence = 1
    | some p => p.eventSequence < e.eventSequence
  unclosed : ∀ p ∈ pre, p.isSessionClosed = false
  addressed : (ProviderEventValidator.new contract).Addressed e
  parses : e.utteranceField ≠ some none
  live : ∀ u, e.Names u → u ∉ ended pre
  room : ∀ u, e.finalOf = some u → (ended pre).card < maxTerminalUtterances
  /-- A queue overflow or an utterance without speech is followed by the dropped final. -/
  pays : ∀ (code : SafeErrorCode) (u : Uuid), code = .queueOverflow ∨ code = .noSpeech →
    atLast (Event.errorOf code) pre = some u →
      ∃ f, e = .utteranceFinal f ∧ f.utteranceId = some u
        ∧ f.outcome = UtteranceOutcome.dropped.code ∧ (code = .noSpeech → lastAudio u pre = none)
  content : Content contract pre e

/-- Every event of the stream may come where it stands. -/
def Lawful (contract : ProviderSessionContract) (stream : List Event) : Prop :=
  AtEach (Follows contract) stream

/-! ### Growing streams -/

variable {pre : List Event} {e : Event} {u : Uuid}

theorem mem_ended : u ∈ ended pre ↔ ∃ e ∈ pre, e.finalOf = some u := by simp [ended]

theorem mem_ended_concat : u ∈ ended (pre ++ [e]) ↔ u ∈ ended pre ∨ e.finalOf = some u := by
  simp [mem_ended, or_and_right, exists_or]

theorem ended_concat_none (h : e.finalOf = none) : ended (pre ++ [e]) = ended pre := by
  ext u
  simp [mem_ended_concat, h]

theorem ended_concat_final {f : ProviderUtteranceFinal} (hid : f.utteranceId = some u) :
    ended (pre ++ [.utteranceFinal f]) = insert u (ended pre) := by
  ext x
  simp [mem_ended_concat, Event.finalOf, hid, or_comm, eq_comm]

theorem lastAudio_concat (u : Uuid) :
    lastAudio u (pre ++ [e]) = (e.audioOf u).or (lastAudio u pre) := by
  simp only [lastAudio, List.filterMap_append]
  cases h : e.audioOf u <;> simp [h]

@[simp] theorem atLast_concat (about : Event → Option Uuid) : atLast about (pre ++ [e]) = about e := by
  simp [atLast]

@[simp] theorem atLast_nil (about : Event → Option Uuid) : atLast about [] = none := rfl

theorem finalOf_eq_none (hf : ∀ f, e ≠ .utteranceFinal f) : e.finalOf = none := by
  cases e with
  | utteranceFinal f => exact absurd rfl (hf f)
  | _ => rfl

theorem audioOf_eq_none (ha : ∀ a, e ≠ .audioDelta a) (u : Uuid) : e.audioOf u = none := by
  cases e with
  | audioDelta a => exact absurd rfl (ha a)
  | _ => rfl

namespace ProviderEventValidator

variable {contract : ProviderSessionContract} {v w : ProviderEventValidator} {nowNs : Nat}

/-- The validator has seen exactly the events of the stream. -/
structure Tracks (contract : ProviderSessionContract) (pre : List Event)
    (v : ProviderEventValidator) : Prop where
  same : v.contract = contract
  opened : v.opened = !pre.isEmpty
  closed : v.closed = pre.any Event.isSessionClosed
  last : v.lastEventSequence = pre.getLast?.map Event.eventSequence
  terminal : v.terminalUtterances = ended pre
  heard : ∀ u, u ∉ ended pre → v.lastWireAudioSequence.lookup u = lastAudio u pre

theorem tracks_new (contract : ProviderSessionContract) : Tracks contract [] (new contract) where
  same := rfl
  opened := rfl
  closed := rfl
  last := rfl
  terminal := rfl
  heard := fun _ _ => rfl

/-- A validator that counts one more event keeps in step. -/
theorem tracks_concat (ht : Tracks contract pre v) (hk : w.contract = v.contract)
    (ho : w.opened = true) (hcl : w.closed = (v.closed || e.isSessionClosed))
    (hend : ∀ u, u ∈ w.terminalUtterances ↔ u ∈ v.terminalUtterances ∨ e.finalOf = some u)
    (hwire : ∀ u, e.finalOf ≠ some u →
      w.lastWireAudioSequence.lookup u = (e.audioOf u).or (v.lastWireAudioSequence.lookup u)) :
    Tracks contract (pre ++ [e]) (w.see e.eventSequence) where
  same := hk.trans ht.same
  opened := by rw [show (w.see e.eventSequence).opened = true from ho]; simp
  closed := by simp [see, hcl, ht.closed]
  last := by simp [see]
  terminal := by
    ext u
    rw [mem_ended_concat, ← ht.terminal]
    exact hend u
  heard := by
    intro u hu
    rw [mem_ended_concat, not_or] at hu
    rw [lastAudio_concat, ← ht.heard u hu.1]
    exact hwire u hu.2

theorem lookup_hear {a : ProviderAudioDelta} (hid : a.utteranceId = some u) (t : Table Uuid UInt64)
    (x : Uuid) :
    (t.insert u a.sequence).lookup x = ((Event.audioDelta a).audioOf x).or (t.lookup x) := by
  rw [Table.lookup_insert_if, Event.audioOf, hid]
  by_cases h : x = u
  · simp [h]
  · simp [h, Ne.symm h]

/-- Every event that counts keeps the validator in step with the stream. -/
theorem tracks_validate {r : Outcome ProviderValidationError Unit} (ht : Tracks contract pre v)
    (h : v.validate (some e) nowNs = (r, w)) (hadv : advancesSequence r = true) :
    Tracks contract (pre ++ [e]) w := by
  rcases validate_cases v (some e) nowNs with ⟨x, hx, heq⟩ | ⟨ev, r', w', hev, hord, -, hv, heq⟩
  · rw [heq] at h
    cases h
    rw [not_advances hx] at hadv
    cases hadv
  · cases hev
    rw [heq] at h
    obtain ⟨rfl, rfl⟩ := Prod.mk.inj h
    rw [if_pos hadv]
    obtain ⟨hcl, hop, -⟩ := hord
    cases hv with
    | turnedAway x hx => rw [not_advances hx] at hadv; cases hadv
    | refused x hx _ => rw [not_advances hx] at hadv; cases hadv
    | cancelledAudio a u ha hid _ _ _ =>
      subst ha
      refine tracks_concat ht rfl hop ?_ ?_ ?_
      · simp [hearWire, Event.isSessionClosed]
      · simp [hearWire, Event.finalOf]
      · intro x _
        simpa [hearWire, play] using lookup_hear hid v.lastWireAudioSequence x
    | expiredAudio a u c ha hid _ _ _ _ _ _ _ _ =>
      subst ha
      refine tracks_concat ht (by simp [hearWire]) (by simpa [hearWire, Event.isSessionOpened] using hop) ?_ ?_ ?_
      · simp [hearWire, Event.isSessionClosed]
      · simp [hearWire, Event.finalOf]
      · intro x _
        simpa [hearWire, play] using lookup_hear hid v.lastWireAudioSequence x
    | playedAudio a u c ha hid _ _ _ _ _ _ _ =>
      subst ha
      refine tracks_concat ht (by simp [hearWire, play]) 
        (by simpa [hearWire, play, Event.isSessionOpened] using hop)
        ?_ ?_ ?_
      · simp [hearWire, play, Event.isSessionClosed]
      · simp [hearWire, play, Event.finalOf]
      · intro x _
        simpa [hearWire, play] using lookup_hear hid v.lastWireAudioSequence x
    | opened o ho _ =>
      subst ho
      refine tracks_concat ht (by simp) rfl ?_ ?_ ?_ <;>
        simp [Event.isSessionClosed, Event.finalOf, Event.audioOf]
    | noted _ _ hf hncl hnop hau =>
      refine tracks_concat ht (by simp) (by simpa [hnop] using hop) (by simp [hncl]) ?_ ?_
      · simp [finalOf_eq_none hf]
      · simp [audioOf_eq_none hau]
    | latency l x hl _ _ _ =>
      subst hl
      refine tracks_concat ht rfl hop ?_ ?_ ?_ <;>
        simp [Event.isSessionClosed, Event.finalOf, Event.audioOf]
    | overflowError x u hx _ _ _ _ _ _ =>
      subst hx
      refine tracks_concat ht (by simp) (by simpa [Event.isSessionOpened] using hop) ?_ ?_ ?_ <;>
        simp [Event.isSessionClosed, Event.finalOf, Event.audioOf]
    | noSpeechError x u hx _ _ _ _ _ _ _ =>
      subst hx
      refine tracks_concat ht rfl hop ?_ ?_ ?_ <;>
        simp [Event.isSessionClosed, Event.finalOf, Event.audioOf]
    | ended path f u hf hid _ _ =>
      subst hf
      have hret := retired_settle (v := v) (u := u) path
      refine tracks_concat ht hret.contract ?_ ?_ ?_ ?_
      · have hopened : v.opened = true := hop
        cases path <;> exact hopened
      · cases path <;> simp [settle, retire, Event.isSessionClosed]
      · intro x
        rw [hret.terminal, Finset.mem_insert, Event.finalOf, hid, Option.some.injEq, or_comm,
          eq_comm]
      · intro x hx
        have hne : x ≠ u := fun h => hx (by rw [Event.finalOf, hid, h])
        have hwire : ((v.settle u path).retire u).lastWireAudioSequence
            = v.lastWireAudioSequence.erase u := by cases path <;> rfl
        rw [hwire, AList.lookup_erase_ne hne]
        rfl
    | closed z hz _ =>
      subst hz
      refine tracks_concat ht (by simp) (by simpa [Event.isSessionOpened] using hop) ?_ ?_ ?_ <;>
        simp [Event.isSessionClosed, Event.finalOf, Event.audioOf]
    | exhausted _ _ _ _ _ _ _ => cases hadv
    | panicked _ _ _ _ _ _ => cases hadv

/-! ### A stream without cancellations -/

/-- Nothing has been cancelled, and what the validator expects is what the last event announced. -/
structure Undisturbed (contract : ProviderSessionContract) (pre : List Event)
    (v : ProviderEventValidator) : Prop where
  debug : v.debugTextEnabled = contract.debugTextEnabled
  cancel : v.cancelPending = ∅
  playable : ∀ u, u ∉ ended pre → v.lastPlayableAudioSequence.lookup u = lastAudio u pre
  overflow : v.pendingOverflowTerminal = atLast (Event.errorOf .queueOverflow) pre
  noSpeech : v.pendingNoSpeechTerminal = atLast (Event.errorOf .noSpeech) pre
  latency : v.pendingNoSpeechLatency = atLast Event.recognisedOnly pre

theorem undisturbed_new (contract : ProviderSessionContract) :
    Undisturbed contract [] (new contract) where
  debug := rfl
  cancel := rfl
  playable := fun _ _ => rfl
  overflow := rfl
  noSpeech := rfl
  latency := rfl

theorem undisturbed_concat {n : UInt64} (hu : Undisturbed contract pre v)
    (hd : w.debugTextEnabled = v.debugTextEnabled) (hx : w.cancelPending = ∅)
    (hplay : ∀ u, e.finalOf ≠ some u → w.lastPlayableAudioSequence.lookup u
      = (e.audioOf u).or (v.lastPlayableAudioSequence.lookup u))
    (ho : w.pendingOverflowTerminal = e.errorOf .queueOverflow)
    (hn : w.pendingNoSpeechTerminal = e.errorOf .noSpeech)
    (hl : w.pendingNoSpeechLatency = e.recognisedOnly) :
    Undisturbed contract (pre ++ [e]) (w.see n) where
  debug := hd.trans hu.debug
  cancel := hx
  playable := by
    intro u hend
    rw [mem_ended_concat, not_or] at hend
    rw [lastAudio_concat, ← hu.playable u hend.1]
    exact hplay u hend.2
  overflow := by rw [atLast_concat]; exact ho
  noSpeech := by rw [atLast_concat]; exact hn
  latency := by rw [atLast_concat]; exact hl

/-- An error announces one thing only. -/
theorem atLast_error {code : SafeErrorCode} (h : atLast (Event.errorOf code) pre = some u) :
    atLast Event.recognisedOnly pre = none
      ∧ ∀ other, other.code ≠ code.code → atLast (Event.errorOf other) pre = none := by
  unfold atLast at h ⊢
  cases hl : pre.getLast? with
  | none => simp
  | some p =>
    rw [hl] at h
    cases p with
    | error x =>
      simp only [Option.bind_some, Event.errorOf] at h ⊢
      split at h
      · next hx =>
        refine ⟨rfl, fun other hne => ?_⟩
        rw [if_neg (by rw [hx]; exact hne.symm)]
      · cases h
    | _ => cases h

/-- The final the stream owes, or a final that owes nothing, settles its utterance. -/
theorem undisturbed_final {f : ProviderUtteranceFinal} {path : FinalPath} {n : UInt64}
    (hu : Undisturbed contract pre v) (hid : f.utteranceId = some u)
    (ho : (v.settle u path).pendingOverflowTerminal = none)
    (hn : (v.settle u path).pendingNoSpeechTerminal = none)
    (hl : (v.settle u path).pendingNoSpeechLatency = none) :
    Undisturbed contract (pre ++ [.utteranceFinal f]) (((v.settle u path).retire u).see n) := by
  have hret := retired_settle (v := v) (u := u) path
  refine undisturbed_concat hu ?_ ?_ ?_ ho hn hl
  · cases path <;> rfl
  · rw [hret.cancel, hu.cancel]; rfl
  · intro x hx
    have hne : x ≠ u := fun h => hx (by rw [Event.finalOf, hid, h])
    rw [hret.played, AList.lookup_erase_ne hne]
    rfl

theorem nextAudio_of_follows (ht : Tracks contract pre v) (hu : u ∉ ended pre) {n : UInt64}
    (hn : NextAfter (lastAudio u pre) n) : v.NextAudio u n := by
  rw [← ht.heard u hu] at hn
  exact hn

theorem inOrder_of_follows (ht : Tracks contract pre v) (hf : Follows contract pre e) :
    v.InOrder e := by
  refine ⟨?_, ?_, ?_⟩
  · rw [ht.closed, List.any_eq_false]
    intro p hp
    simp [hf.unclosed p hp]
  · rw [ht.opened, hf.first]
  · have hinc := hf.increasing
    rw [NextSequence, ht.last]
    cases hl : pre.getLast? with
    | none => rw [hl] at hinc; exact hinc
    | some p => rw [hl] at hinc; exact hinc

theorem addressed_of_follows (ht : Tracks contract pre v) (hf : Follows contract pre e) :
    v.Addressed e := by
  have h := hf.addressed
  unfold Addressed at h ⊢
  rw [ht.same]
  exact h

/-- A final of the stream is settled on the branch that its predecessor asks for. -/
theorem validate_follows_final {f : ProviderUtteranceFinal} (ht : Tracks contract pre v)
    (hu : Undisturbed contract pre v) (hf : Follows contract pre (.utteranceFinal f))
    (hnc : f.outcome ≠ UtteranceOutcome.cancelled.code)
    (hrec : ∀ u, (Event.utteranceFinal f).Names u → u ∈ v.inputCaptureNs) :
    ∃ w, v.validate (some (.utteranceFinal f)) nowNs = (.ok (), w)
      ∧ Undisturbed contract (pre ++ [.utteranceFinal f]) w := by
  obtain ⟨u, hid⟩ : ∃ u, f.utteranceId = some u := by
    cases h : f.utteranceId with
    | none => exact absurd (by rw [Event.utteranceField, h]) hf.parses
    | some u => exact ⟨u, rfl⟩
  have hname : (Event.utteranceFinal f).Names u := by rw [Event.Names, Event.utteranceField, hid]
  have hend := hf.live u hname
  obtain ⟨⟨o, ho, hne⟩, hseq⟩ := hf.content
  have hlast : f.finalAudioSequence = v.lastPlayableAudioSequence.lookup u := by
    rw [hseq u hid, hu.playable u hend]
  have hroom : v.terminalUtterances.card < maxTerminalUtterances := by
    rw [ht.terminal]
    exact hf.room u hid
  have hnp : u ∉ v.cancelPending := by rw [hu.cancel]; simp
  have settles : ∀ path, v.Settles f u path → (v.settle u path).pendingOverflowTerminal = none →
      (v.settle u path).pendingNoSpeechTerminal = none →
      (v.settle u path).pendingNoSpeechLatency = none → ∃ w,
        v.validate (some (.utteranceFinal f)) nowNs = (.ok (), w)
          ∧ Undisturbed contract (pre ++ [.utteranceFinal f]) w := by
    intro path hs h₁ h₂ h₃
    exact ⟨_, validate_accepts (inOrder_of_follows ht hf) (addressed_of_follows ht hf)
      (validateKind_settles path hid hs hroom), undisturbed_final hu hid h₁ h₂ h₃⟩
  cases hov : v.pendingOverflowTerminal with
  | some x =>
    have hat := hu.overflow.symm.trans hov
    obtain ⟨f', hf', hid', hdrop, -⟩ := hf.pays .queueOverflow x (.inl rfl) hat
    cases hf'
    obtain rfl : u = x := Option.some.inj (hid.symm.trans hid')
    refine settles .overflow ⟨hnp, hov, hdrop, hlast⟩ rfl ?_ ?_
    · exact hu.noSpeech.trans ((atLast_error hat).2 .noSpeech (by decide))
    · exact hu.latency.trans (atLast_error hat).1
  | none =>
    cases hns : v.pendingNoSpeechTerminal with
    | some x =>
      have hat := hu.noSpeech.symm.trans hns
      obtain ⟨f', hf', hid', hdrop, hsilent⟩ := hf.pays .noSpeech x (.inr rfl) hat
      cases hf'
      obtain rfl : u = x := Option.some.inj (hid.symm.trans hid')
      refine settles .noSpeech ⟨hnp, hov, hns, hdrop, ?_⟩ hov rfl ?_
      · rw [hseq u hid, hsilent rfl]
      · exact hu.latency.trans (atLast_error hat).1
    | none =>
      refine settles .plain ⟨hnp, ⟨hov, hns⟩, ⟨hrec u hname, ?_⟩, ?_, hlast⟩ hov hns rfl
      · rw [ht.terminal]
        exact hend
      · cases o with
        | unspecified => exact absurd rfl hne
        | completed => exact .inl ho
        | cancelled => exact absurd ho hnc
        | dropped => exact .inr ho

/-- An event that is only noted leaves no expectation behind. -/
theorem undisturbed_noted (hu : Undisturbed contract pre v) (hfree : v.Unobliged)
    (ha : ∀ a, e ≠ .audioDelta a) (ho : e.errorOf .queueOverflow = none)
    (hn : e.errorOf .noSpeech = none) (hk : e.keepsNoSpeechLatency = false) (n : UInt64) :
    Undisturbed contract (pre ++ [e]) ((v.clearNoSpeechLatency e).see n) := by
  have hrep : e.recognisedOnly = none := by
    cases e with
    | latency l => cases hk
    | _ => rfl
  refine undisturbed_concat hu (by simp) (by simp [hu.cancel]) ?_ ?_ ?_ ?_
  · intro u _
    simp [audioOf_eq_none ha]
  · simp [hfree.1, ho]
  · simp [hfree.2, hn]
  · simp [clearNoSpeechLatency, hk, hrep]

/-- The next frame of an active utterance that is not too late is played. -/
theorem dispatch_audio {a : ProviderAudioDelta} {c : Nat} (hid : a.utteranceId = some u)
    (hact : v.Active u) (hn : v.NextAudio u a.sequence) (hm : v.MatchesOutput a)
    (hdone : v.inputCompleteNs.lookup u = some c) (hage : nowNs - c ≤ v.maxAgeMs * nsPerMs) :
    v.dispatch (.audioDelta a) nowNs
      = (.ok (), (v.hearWire u a.sequence).play u a.sequence) := by
  have hactive : v.activeUtterance a.utteranceId = .ok u := activeUtterance_ok.mpr ⟨hid, hact⟩
  have hlate : ¬ ((v.lastPlayableAudioSequence.lookup u).isNone = true
      ∧ v.maxAgeMs * nsPerMs < nowNs - c) := by
    rintro ⟨-, hlt⟩
    omega
  simp only [dispatch, validateAudioDelta, hactive, validateWireAudio_accepts hn hm]
  simp only [hearWire, hdone]
  exact (if_neg hlate).trans rfl

theorem dispatch_text {t : ProviderTextDelta} (ht : t.utteranceId = some u) (hact : v.Active u)
    (hd : v.debugTextEnabled = true) : v.validateTextEvent t.utteranceId = .ok () := by
  simp only [validateTextEvent, activeUtterance_ok.mpr ⟨ht, hact⟩, hd]
  rfl

theorem activeUtterance?_accepts {t : Option IdText} (hp : t ≠ some none)
    (hact : ∀ u, t = some (some u) → v.Active u) : v.activeUtterance? t = .ok t.join := by
  match t with
  | none => rfl
  | some none => exact absurd rfl hp
  | some (some u) => simp only [activeUtterance?, activeUtterance_ok.mpr ⟨rfl, hact u rfl⟩]; rfl

/-- An error that says what its code asks for is accepted and announces what the code stands for. -/
theorem dispatch_error {x : ProviderError} {code : SafeErrorCode}
    (hcode : x.code = code.code) (hne : code ≠ .unspecified)
    (hmsg : x.safeMessage = safeErrorMessage code) (hp : x.utteranceId ≠ some none)
    (hact : ∀ u, x.utteranceId = some (some u) → v.Active u)
    (hov : code = .queueOverflow → ∃ u, x.utteranceId = some (some u))
    (hns : code = .noSpeech → ∃ u, x.utteranceId = some (some u)
      ∧ v.pendingNoSpeechLatency = some u) :
    v.validateError x = (.ok (),
      if code = .queueOverflow then { v with pendingOverflowTerminal := x.utteranceId.join }
      else if code = .noSpeech then
        { v with pendingNoSpeechLatency := none, pendingNoSpeechTerminal := x.utteranceId.join }
      else v) := by
  have hok : ¬ (code = .unspecified ∨ x.safeMessage ≠ safeErrorMessage code) := by simp [hne, hmsg]
  simp only [validateError, hcode, SafeErrorCode.tryFrom_code, activeUtterance?_accepts hp hact]
  rw [if_neg hok]
  by_cases ho : code = .queueOverflow
  · obtain ⟨u, hid⟩ := hov ho
    simp [ho, hid]
  · by_cases hn : code = .noSpeech
    · obtain ⟨u, hid, hlat⟩ := hns hn
      simp [hn, hid, hlat]
    · simp [ho, hn]

theorem errorOf_error {x : ProviderError} {code : SafeErrorCode} (hcode : x.code = code.code)
    (other : SafeErrorCode) : (Event.error x).errorOf other
      = if code = other then x.utteranceId.join else none := by
  have : code.code = other.code ↔ code = other := by
    constructor
    · intro h
      have := congrArg SafeErrorCode.tryFrom h
      simpa [SafeErrorCode.tryFrom_code] using this
    · rintro rfl; rfl
  simp only [Event.errorOf, hcode, this]

/-- Without a debt only the contents of an event decide. -/
theorem validateKind_follows (hc : Coherent v) (ht : Tracks contract pre v)
    (hu : Undisturbed contract pre v) (hf : Follows contract pre e) (hfree : v.Unobliged)
    (hfin : ∀ f, e ≠ .utteranceFinal f) (hrec : ∀ u, e.Names u → u ∈ v.inputCaptureNs)
    (hfresh : ∀ a u c, e = .audioDelta a → a.utteranceId = some u →
      v.inputCompleteNs.lookup u = some c → nowNs - c ≤ v.maxAgeMs * nsPerMs) :
    ∃ w, v.validateKind e nowNs = (.ok (), w)
      ∧ ∀ n, Undisturbed contract (pre ++ [e]) (w.see n) := by
  have hact : ∀ u, e.Names u → v.Active u := by
    intro u hn
    refine ⟨hrec u hn, ?_⟩
    rw [ht.terminal]
    exact hf.live u hn
  have hcontent := hf.content
  rw [validateKind_dispatch hfree hf.parses fun u _ => by rw [hu.cancel]; simp]
  cases e with
  | sessionOpened o =>
    obtain ⟨caps, hi, hout, hcap, ha, hx, hcl⟩ := hcontent
    refine ⟨{ v.clearNoSpeechLatency (.sessionOpened o) with opened := true }, ?_, ?_⟩
    · simp [dispatch, validateSessionOpened, hi, hout, hcap, ha, hx, hcl, ht.same]
    · intro n
      obtain ⟨h₁, h₂, h₃, h₄, h₅, h₆⟩ := undisturbed_noted (e := .sessionOpened o) hu hfree (by intro f hf; cases hf) rfl rfl rfl n
      exact ⟨h₁, h₂, h₃, h₄, h₅, h₆⟩
  | sessionClosed z =>
    refine ⟨{ v.clearNoSpeechLatency (.sessionClosed z) with closed := true }, rfl, ?_⟩
    intro n
    obtain ⟨h₁, h₂, h₃, h₄, h₅, h₆⟩ := undisturbed_noted (e := .sessionClosed z) hu hfree (by intro f hf; cases hf) rfl rfl rfl n
    exact ⟨h₁, h₂, h₃, h₄, h₅, h₆⟩
  | utteranceFinal f => exact absurd rfl (hfin f)
  | audioDelta a =>
    obtain ⟨hm, hnext⟩ := hcontent
    obtain ⟨u, hid⟩ := Option.ne_none_iff_exists'.mp fun h => hf.parses (congrArg some h)
    have hname : (Event.audioDelta a).Names u := congrArg some hid
    obtain ⟨c, hdone⟩ := Option.isSome_iff_exists.mp
      (Table.mem_iff_isSome.mp ((hc.complete_iff u).mpr (hrec u hname)))
    have hmatch : v.MatchesOutput a := by
      unfold MatchesOutput at hm ⊢
      rw [ht.same]
      exact hm
    refine ⟨_, dispatch_audio hid (clear_active.mpr (hact u hname))
      (clear_nextAudio.mpr (nextAudio_of_follows ht (hf.live u hname) (hnext u hid)))
      (clear_matches.mpr hmatch) (by simpa using hdone)
      (by simpa using hfresh a u c rfl hid hdone), ?_⟩
    intro n
    refine undisturbed_concat hu (by simp [hearWire, play]) (by simp [hearWire, play, hu.cancel])
      ?_ ?_ ?_ ?_
    · intro x _
      simpa [hearWire, play] using lookup_hear hid v.lastPlayableAudioSequence x
    · simp [hearWire, play, hfree.1, Event.errorOf]
    · simp [hearWire, play, hfree.2, Event.errorOf]
    · rfl
  | transcriptDelta t =>
    obtain ⟨u, hid⟩ := Option.ne_none_iff_exists'.mp fun h => hf.parses (congrArg some h)
    refine ⟨_, ?_, undisturbed_noted hu hfree (by intro f hf; cases hf) rfl rfl rfl⟩
    rw [dispatch, dispatch_text hid (clear_active.mpr (hact u (congrArg some hid)))]
    · rfl
    · rw [clear_debug, hu.debug]
      exact hcontent
  | translationDelta t =>
    obtain ⟨u, hid⟩ := Option.ne_none_iff_exists'.mp fun h => hf.parses (congrArg some h)
    refine ⟨_, ?_, undisturbed_noted hu hfree (by intro f hf; cases hf) rfl rfl rfl⟩
    rw [dispatch, dispatch_text hid (clear_active.mpr (hact u (congrArg some hid)))]
    · rfl
    · rw [clear_debug, hu.debug]
      exact hcontent
  | latency l =>
    rw [clear_of_keeps rfl, dispatch, validateLatency,
      activeUtterance?_accepts (t := l.utteranceId) hf.parses hact]
    refine ⟨_, rfl, fun n => undisturbed_concat hu rfl hu.cancel (fun _ _ => rfl) ?_ ?_ ?_⟩
    · exact hfree.1
    · exact hfree.2
    · simp only [Event.recognisedOnly]
      cases l.utteranceId.join with
      | none => split <;> rfl
      | some u => simp only [Option.filter]
  | health h =>
    refine ⟨_, ?_, undisturbed_noted hu hfree (by intro f hf; cases hf) rfl rfl rfl⟩
    have hok : (v.clearNoSpeechLatency (.health h)).validateHealth h = .ok () := by
      rw [← show (new contract).validateHealth h = .ok () from hcontent]
      simp only [validateHealth, clear_contract, ht.same]
      rfl
    rw [dispatch, hok]
    rfl
  | error x =>
    obtain ⟨code, hcode, hne, hmsg, hov, hns⟩ := hcontent
    have hlat : code = .noSpeech → v.clearNoSpeechLatency (.error x) = v := by
      rintro rfl
      exact clear_of_keeps (by simp [Event.keepsNoSpeechLatency, hcode])
    rw [dispatch, dispatch_error hcode hne hmsg hf.parses (fun u hu => clear_active.mpr (hact u hu))
      hov fun hn => ?_]
    · refine ⟨_, rfl, fun n => ?_⟩
      have hov' := errorOf_error hcode .queueOverflow
      have hns' := errorOf_error hcode .noSpeech
      by_cases hn : code = .noSpeech
      · -- the latency report before it is used up
        subst hn
        rw [hlat rfl, if_neg (by decide), if_pos rfl]
        rw [if_neg (by decide)] at hov'
        exact undisturbed_concat hu rfl hu.cancel (fun _ _ => rfl) (hfree.1.trans hov'.symm)
          (hns'.trans (if_pos rfl)).symm rfl
      · have hk : (Event.error x).keepsNoSpeechLatency = false := by
          rw [if_neg hn] at hns'
          simp only [Event.keepsNoSpeechLatency, hcode, decide_eq_false_iff_not]
          intro h
          exact hn (Option.some.inj (by rw [← SafeErrorCode.tryFrom_code, h]; rfl))
        rw [if_neg hn] at hns'
        by_cases ho : code = .queueOverflow
        · rw [if_pos ho]
          rw [if_pos ho] at hov'
          refine undisturbed_concat hu (by simp) (by simp [hu.cancel]) ?_ hov'.symm ?_ ?_
          · intro u _
            simp [Event.audioOf]
          · simp [hfree.2, hns']
          · simp [clearNoSpeechLatency, hk, Event.recognisedOnly]
        · rw [if_neg ho, if_neg hn]
          rw [if_neg ho] at hov'
          exact undisturbed_noted (e := .error x) hu hfree (by intro f hf; cases hf) hov' hns' hk n
    · obtain ⟨u, hid, hrep⟩ := hns hn
      rw [hlat hn, hu.latency]
      exact ⟨u, hid, hrep⟩

/-- A validator in step with a stream that has nothing cancelled accepts whatever may come next,
    when it knows the utterance and a frame is not too late. -/
theorem validate_follows (hc : Coherent v) (ht : Tracks contract pre v)
    (hu : Undisturbed contract pre v) (hf : Follows contract pre e)
    (hnc : ∀ f, e = .utteranceFinal f → f.outcome ≠ UtteranceOutcome.cancelled.code)
    (hrec : ∀ u, e.Names u → u ∈ v.inputCaptureNs)
    (hfresh : ∀ a u c, e = .audioDelta a → a.utteranceId = some u →
      v.inputCompleteNs.lookup u = some c → nowNs - c ≤ v.maxAgeMs * nsPerMs) :
    ∃ w, v.validate (some e) nowNs = (.ok (), w) ∧ Tracks contract (pre ++ [e]) w
      ∧ Undisturbed contract (pre ++ [e]) w := by
  obtain ⟨w, hw, hw'⟩ : ∃ w, v.validate (some e) nowNs = (.ok (), w)
      ∧ Undisturbed contract (pre ++ [e]) w := by
    by_cases hfin : ∃ f, e = .utteranceFinal f
    · obtain ⟨f, rfl⟩ := hfin
      exact validate_follows_final ht hu hf (hnc f rfl) hrec
    · have hne : ∀ f, e ≠ .utteranceFinal f := fun f h => hfin ⟨f, h⟩
      -- a debt would have to be paid by a final
      have hfree : v.Unobliged := by
        refine ⟨?_, ?_⟩
        · rw [hu.overflow, Option.eq_none_iff_forall_ne_some]
          intro u hat
          obtain ⟨f, rfl, -⟩ := hf.pays .queueOverflow u (.inl rfl) hat
          exact hne f rfl
        · rw [hu.noSpeech, Option.eq_none_iff_forall_ne_some]
          intro u hat
          obtain ⟨f, rfl, -⟩ := hf.pays .noSpeech u (.inr rfl) hat
          exact hne f rfl
      obtain ⟨w, hw, hw'⟩ := validateKind_follows hc ht hu hf hfree hne hrec hfresh
      exact ⟨_, validate_accepts (inOrder_of_follows ht hf) (addressed_of_follows ht hf) hw, hw' _⟩
  exact ⟨w, hw, tracks_validate ht hw rfl, hw'⟩

end ProviderEventValidator

end Translator.Wire
