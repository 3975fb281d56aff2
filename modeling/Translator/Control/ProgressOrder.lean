import Translator.Control.Progress

/-! The checkpoint a `ProgressObserver` comes to, from the flags it has. The flags are raised by the signs
    of the utterances that are tracked, in any order; where they lead is a climb along the checkpoints,
    and catching up in between makes no difference to where it ends. -/

namespace Translator.Control
open Schemes
open Core (AudioDirection)
open Wire (Uuid)

namespace ProgressObserver

/-! ### The flags of one direction -/

/-- What is heard of the tracked utterance of a direction. -/
inductive Sign where | transcriptFinal | translationFinal | audioFrame | completed
  deriving DecidableEq, Repr

@[ext] structure Flags where
  transcriptFinal : Bool
  translationFinal : Bool
  firstAudio : Bool
  completed : Bool
  deriving DecidableEq, Repr

namespace Flags

/-- Sound and a completed utterance stand for the texts that did not come. -/
def hear (flags : Flags) : Sign → Flags
  | .transcriptFinal => { flags with transcriptFinal := true }
  | .translationFinal => { flags with translationFinal := true }
  | .audioFrame =>
    { flags with
      firstAudio := true
      transcriptFinal := flags.transcriptFinal || flags.completed
      translationFinal := flags.translationFinal || flags.completed }
  | .completed =>
    { flags with
      completed := true
      transcriptFinal := flags.transcriptFinal || flags.firstAudio
      translationFinal := flags.translationFinal || flags.firstAudio }

/-- The flags already say what sound and a completed utterance stand for. -/
def Closed (flags : Flags) : Prop :=
  flags.firstAudio = true → flags.completed = true →
    flags.transcriptFinal = true ∧ flags.translationFinal = true

/-- The flags after a set of signs. -/
def after (flags : Flags) (heard : Sign → Prop) [DecidablePred heard] : Flags :=
  let firstAudio := flags.firstAudio || decide (heard .audioFrame)
  let completed := flags.completed || decide (heard .completed)
  { transcriptFinal := flags.transcriptFinal || decide (heard .transcriptFinal)
      || (firstAudio && completed)
    translationFinal := flags.translationFinal || decide (heard .translationFinal)
      || (firstAudio && completed)
    firstAudio
    completed }

theorem closed_hear {flags : Flags} (h : flags.Closed) (sign : Sign) : (flags.hear sign).Closed := by
  obtain ⟨t, l, a, c⟩ := flags
  cases sign <;> cases t <;> cases l <;> cases a <;> cases c <;> simp_all [Closed, hear]

/-- Closed flags are those after no sign. -/
theorem after_nil {flags : Flags} (h : flags.Closed) : flags.after (· ∈ []) = flags := by
  obtain ⟨t, l, a, c⟩ := flags
  cases t <;> cases l <;> cases a <;> cases c <;> simp_all [Closed, after]

theorem after_cons (flags : Flags) (sign : Sign) (signs : List Sign) :
    (flags.hear sign).after (· ∈ signs) = flags.after (· ∈ sign :: signs) := by
  obtain ⟨t, l, a, c⟩ := flags
  cases sign <;> cases t <;> cases l <;> cases a <;> cases c <;> simp [hear, after]

/-- The order of the signs, and how often each of them is heard, make no difference. -/
theorem foldl_hear {flags : Flags} (h : flags.Closed) (signs : List Sign) :
    signs.foldl hear flags = flags.after (· ∈ signs) := by
  induction signs generalizing flags with
  | nil => exact (after_nil h).symm
  | cons sign signs ih =>
    rw [List.foldl_cons, ih (closed_hear h sign), after_cons]

theorem after_congr (flags : Flags) {heard heard' : Sign → Prop} [DecidablePred heard]
    [DecidablePred heard'] (h : ∀ sign, heard sign ↔ heard' sign) :
    flags.after heard = flags.after heard' := by
  simp only [after, h]

/-- No flag of the first is up that is not up in the second. -/
def Within (flags flags' : Flags) : Prop :=
  (flags.transcriptFinal = true → flags'.transcriptFinal = true)
    ∧ (flags.translationFinal = true → flags'.translationFinal = true)
    ∧ (flags.firstAudio = true → flags'.firstAudio = true)

theorem within_refl (flags : Flags) : flags.Within flags := ⟨id, id, id⟩

theorem within_hear (flags : Flags) (sign : Sign) : flags.Within (flags.hear sign) := by
  cases sign <;> simp_all [Within, hear]

end Flags

/-- Where the flags lead from a checkpoint. -/
def climb (outgoing incoming : Flags) : RoundTripCheckpoint → RoundTripCheckpoint
  | .outgoingVad =>
    if outgoing.transcriptFinal then
      if outgoing.translationFinal then
        if outgoing.firstAudio then .englishFirstAudio else .outgoingTranslationFinal
      else .outgoingAsrFinal
    else .outgoingVad
  | .outgoingAsrFinal =>
    if outgoing.translationFinal then
      if outgoing.firstAudio then .englishFirstAudio else .outgoingTranslationFinal
    else .outgoingAsrFinal
  | .outgoingTranslationFinal =>
    if outgoing.firstAudio then .englishFirstAudio else .outgoingTranslationFinal
  | .virtualPeerReinjecting =>
    if incoming.transcriptFinal then
      if incoming.translationFinal then
        if incoming.firstAudio then .russianFirstAudio else .incomingTranslationFinal
      else .incomingAsrFinal
    else .virtualPeerReinjecting
  | .incomingAsrFinal =>
    if incoming.translationFinal then
      if incoming.firstAudio then .russianFirstAudio else .incomingTranslationFinal
    else .incomingAsrFinal
  | .incomingTranslationFinal =>
    if incoming.firstAudio then .russianFirstAudio else .incomingTranslationFinal
  | checkpoint => checkpoint

/-- Catching up in between makes no difference to where more flags lead. -/
theorem climb_climb {outgoing outgoing' incoming incoming' : Flags}
    (hout : outgoing.Within outgoing') (hin : incoming.Within incoming')
    (checkpoint : RoundTripCheckpoint) :
    climb outgoing' incoming' (climb outgoing incoming checkpoint)
      = climb outgoing' incoming' checkpoint := by
  obtain ⟨t, l, a, _⟩ := outgoing
  obtain ⟨u, m, b, _⟩ := incoming
  obtain ⟨hout₁, hout₂, hout₃⟩ := hout
  obtain ⟨hin₁, hin₂, hin₃⟩ := hin
  cases checkpoint with
  | outgoingVad => cases t <;> cases l <;> cases a <;> simp_all [climb]
  | outgoingAsrFinal => cases l <;> cases a <;> simp_all [climb]
  | outgoingTranslationFinal => cases a <;> simp_all [climb]
  | virtualPeerReinjecting => cases u <;> cases m <;> cases b <;> simp_all [climb]
  | incomingAsrFinal => cases m <;> cases b <;> simp_all [climb]
  | incomingTranslationFinal => cases b <;> simp_all [climb]
  | _ => rfl

theorem climb_terminal (outgoing incoming : Flags) {checkpoint : RoundTripCheckpoint}
    (h : checkpoint.isTerminal = true) : climb outgoing incoming checkpoint = checkpoint := by
  cases checkpoint <;> first | rfl | cases h

/-! ### The self test -/

/-- The session of the self test, and its checkpoint. -/
def place (test : RoundTripSelfTest) : Option (Uuid × RoundTripCheckpoint) :=
  test.session.map fun session => (session.id, session.checkpoint)

theorem place_recordRecursionTrigger (test : RoundTripSelfTest) (id : Uuid) :
    place (test.recordRecursionTrigger id).2 = place test := by
  unfold RoundTripSelfTest.recordRecursionTrigger
  split
  · rfl
  · next session hs =>
    split
    · rfl
    · simp [place, hs]

/-- A step to the next checkpoint is refused, and then nothing changes, or it is taken. -/
theorem advance_place {test : RoundTripSelfTest} {id : Uuid} {checkpoint : RoundTripCheckpoint}
    {latency : RoundTripLatency} {result : Except RoundTripErrorCode Unit} {test' : RoundTripSelfTest}
    (h : test.advance id checkpoint latency = (result, test')) :
    (result = .ok () ∧ place test' = some (id, checkpoint)
      ∧ ∃ from', place test = some (id, from') ∧ from'.next = some checkpoint)
    ∨ ((∃ error, result = .error error) ∧ test' = test) := by
  unfold RoundTripSelfTest.advance at h
  rcases test.onActive_cases id fun s => s.advance checkpoint latency with
    ⟨error, hrefused⟩ | ⟨s, s', hs, rfl, -, hcall, htaken⟩
  · cases hrefused.symm.trans h
    exact .inr ⟨⟨error, rfl⟩, rfl⟩
  · cases htaken.symm.trans h
    unfold RoundTripSelfTest.Session.advance at hcall
    split at hcall
    · cases hcall
    · next hok =>
      cases hcall
      rw [not_or, not_not] at hok
      exact .inl ⟨rfl, rfl, s.checkpoint, by simp [place, hs], hok.1⟩

theorem active_of_next {checkpoint next : RoundTripCheckpoint} (h : checkpoint.next = some next) :
    checkpoint.isTerminal = false := by
  cases checkpoint <;> first | rfl | cases h

/-- A step to the next checkpoint that needs no proof is taken by the session it is for. -/
theorem advance_taken {test : RoundTripSelfTest} {id : Uuid} {from' checkpoint : RoundTripCheckpoint}
    (latency : RoundTripLatency) (hplace : place test = some (id, from'))
    (hnext : from'.next = some checkpoint) (hplain : checkpoint ≠ .virtualPeerReinjecting) :
    (test.advance id checkpoint latency).1 = .ok () := by
  obtain ⟨session, hs, hid⟩ := Option.map_eq_some_iff.mp hplace
  obtain ⟨rfl, rfl⟩ := Prod.mk.inj hid
  simp [RoundTripSelfTest.advance, RoundTripSelfTest.onActive, RoundTripSelfTest.activeSession, hs,
    active_of_next hnext, RoundTripSelfTest.Session.advance, hnext, hplain]

/-- The session is failed, or it was over or another one, and then nothing changes. -/
theorem fail_place {test : RoundTripSelfTest} {id : Uuid} {error : RoundTripErrorCode} {failed : Bool}
    {test' : RoundTripSelfTest} (h : test.fail id error = (failed, test')) :
    (failed = true ∧ place test' = some (id, .failed) ∧ ∃ from', place test = some (id, from'))
    ∨ (failed = false ∧ test' = test) := by
  unfold RoundTripSelfTest.fail at h
  split at h
  · cases h
    exact .inr ⟨rfl, rfl⟩
  · next session hactive =>
    cases h
    obtain ⟨hs, rfl, -⟩ := RoundTripSelfTest.activeSession_ok hactive
    exact .inl ⟨rfl, rfl, session.checkpoint, by simp [place, hs]⟩

/-! ### The observer and the self test -/

/-- The session of the observer is over. -/
def Over (observer : ProgressObserver) : Prop :=
  ∀ checkpoint, place observer.progress = some (observer.sessionId, checkpoint) →
    checkpoint.isTerminal = true

/-- The utterance that is tracked in a direction. -/
def tracked (observer : ProgressObserver) : AudioDirection → Option Uuid
  | .microphone => observer.state.outgoingUtterance
  | .speaker => if observer.state.incomingEnabled then observer.state.incomingUtterance else none

def flags (observer : ProgressObserver) : AudioDirection → Flags
  | .microphone =>
    ⟨observer.state.outgoingTranscriptFinal, observer.state.outgoingTranslationFinal,
      observer.state.outgoingFirstAudio, observer.state.outgoingCompleted⟩
  | .speaker =>
    ⟨observer.state.incomingTranscriptFinal, observer.state.incomingTranslationFinal,
      observer.state.incomingFirstAudio, observer.state.incomingCompleted⟩

/-- Where the flags lead. -/
def goal (observer : ProgressObserver) : RoundTripCheckpoint :=
  climb (observer.flags .microphone) (observer.flags .speaker) observer.state.checkpoint

/-- A step of `drain_locked` is on the way the flags lead. -/
theorem transition_goal {observer : ProgressObserver} {monotonicNs : Nat → Nat} {reading : Nat}
    {checkpoint : RoundTripCheckpoint} {latency : RoundTripLatency}
    (h : transition observer.state monotonicNs reading = some (checkpoint, latency)) :
    climb (observer.flags .microphone) (observer.flags .speaker) checkpoint = observer.goal := by
  unfold transition at h
  unfold goal
  split at h <;> try cases h
  all_goals
    next hat =>
      split at h <;> cases h
      next hflag => simp [hat, climb, flags, hflag]

theorem transition_none {observer : ProgressObserver} {monotonicNs : Nat → Nat} {reading : Nat}
    (h : transition observer.state monotonicNs reading = none) :
    observer.goal = observer.state.checkpoint := by
  unfold transition at h
  unfold goal
  cases hat : observer.state.checkpoint <;> rw [hat] at h <;> dsimp only at h <;> try rfl
  all_goals
    split at h
    · cases h
    · next hflag => simp [climb, flags, hflag]

/-- The same utterances are tracked. -/
structure Stays (observer observer' : ProgressObserver) : Prop where
  sessionId : observer'.sessionId = observer.sessionId
  outgoing : observer'.state.outgoingUtterance = observer.state.outgoingUtterance
  enabled : observer'.state.incomingEnabled = observer.state.incomingEnabled
  incoming : observer'.state.incomingUtterance = observer.state.incomingUtterance

theorem stays_refl (observer : ProgressObserver) : Stays observer observer := ⟨rfl, rfl, rfl, rfl⟩

theorem stays_trans {a b c : ProgressObserver} (hab : Stays a b) (hbc : Stays b c) : Stays a c :=
  ⟨hbc.sessionId.trans hab.sessionId, hbc.outgoing.trans hab.outgoing,
    hbc.enabled.trans hab.enabled, hbc.incoming.trans hab.incoming⟩

theorem Stays.tracked_eq {observer observer' : ProgressObserver} (h : Stays observer observer') :
    observer'.tracked = observer.tracked := by
  funext direction
  cases direction with
  | microphone => exact h.outgoing
  | speaker => simp only [tracked, h.enabled, h.incoming]

/-- The same utterances are tracked, and the flags are the same. -/
structure Same (observer observer' : ProgressObserver) : Prop extends Stays observer observer' where
  flags : observer'.flags = observer.flags

theorem same_refl (observer : ProgressObserver) : Same observer observer := ⟨stays_refl observer, rfl⟩

theorem same_trans {a b c : ProgressObserver} (hab : Same a b) (hbc : Same b c) : Same a c :=
  ⟨stays_trans hab.toStays hbc.toStays, hbc.flags.trans hab.flags⟩

/-- The observer moves on together with the self test, or nothing happens. -/
theorem advanceLocked_cases {observer observer' : ProgressObserver} {checkpoint : RoundTripCheckpoint}
    {latency : RoundTripLatency} {result : Except RoundTripProcessError Unit}
    (h : observer.advanceLocked checkpoint latency = (result, observer')) :
    (result = .ok () ∧ Same observer observer' ∧ observer'.state.checkpoint = checkpoint
        ∧ place observer'.progress = some (observer'.sessionId, checkpoint)
        ∧ ∃ from', place observer.progress = some (observer.sessionId, from')
          ∧ from'.next = some checkpoint)
    ∨ (result = .error .progress ∧ observer' = observer) := by
  unfold advanceLocked at h
  cases hadvance : observer.progress.advance observer.sessionId checkpoint latency with
  | mk answer progress =>
    rw [hadvance] at h
    rcases advance_place hadvance with ⟨rfl, hplace, hfrom⟩ | ⟨⟨error, rfl⟩, rfl⟩
    · cases h
      exact .inl ⟨rfl, ⟨⟨rfl, rfl, rfl, rfl⟩, rfl⟩, rfl, hplace, hfrom⟩
    · cases h
      exact .inr ⟨rfl, rfl⟩

theorem advanceLocked_taken {observer : ProgressObserver} {checkpoint : RoundTripCheckpoint}
    (latency : RoundTripLatency)
    (hplace : place observer.progress = some (observer.sessionId, observer.state.checkpoint))
    (hnext : observer.state.checkpoint.next = some checkpoint)
    (hplain : checkpoint ≠ .virtualPeerReinjecting) :
    (observer.advanceLocked checkpoint latency).1 = .ok () := by
  have htaken := advance_taken latency hplace hnext hplain
  unfold advanceLocked
  split
  · next error progress hadvance =>
    rw [hadvance] at htaken
    cases htaken
  · rfl

/-- After it has drained, the observer is where the flags lead, if its session still is the one it
    agrees with; if that is over, it stays. -/
theorem drainLocked_spec (monotonicNs : Nat → Nat) (observer : ProgressObserver) (reading : Nat) :
    Same observer (observer.drainLocked monotonicNs reading)
      ∧ (place observer.progress = some (observer.sessionId, observer.state.checkpoint) →
        (observer.drainLocked monotonicNs reading).state.checkpoint = observer.goal
          ∧ place (observer.drainLocked monotonicNs reading).progress
            = some (observer.sessionId, observer.goal))
      ∧ (Over observer → observer.drainLocked monotonicNs reading = observer) := by
  induction observer, reading using drainLocked.induct monotonicNs with
  | case1 observer reading hdue =>
    rw [drainLocked, hdue]
    refine ⟨same_refl observer, ?_, fun _ => rfl⟩
    intro hplace
    rw [transition_none hdue]
    exact ⟨rfl, hplace⟩
  | case2 observer reading checkpoint latency hdue error observer' hadvance =>
    rw [drainLocked, hdue]
    dsimp only
    rw [hadvance]
    rcases advanceLocked_cases hadvance with ⟨hok, -⟩ | ⟨-, rfl⟩
    · cases hok
    · refine ⟨same_refl observer', ?_, fun _ => rfl⟩
      intro hplace
      have hnext := transition_next hdue
      have htaken := advanceLocked_taken latency hplace hnext.1 hnext.2.1
      rw [hadvance] at htaken
      cases htaken
  | case3 observer reading checkpoint latency hdue observer' hadvance ih =>
    rw [drainLocked, hdue]
    dsimp only
    rw [hadvance]
    rcases advanceLocked_cases hadvance with ⟨-, hsame, hat, hplace', from', hplace, hnext⟩ | ⟨hok, -⟩
    · obtain ⟨hsame', hgoal', -⟩ := ih
      have hgoal : observer'.goal = observer.goal := by
        rw [← transition_goal hdue, goal, hat, hsame.flags]
      refine ⟨same_trans hsame hsame', ?_, ?_⟩
      · intro _
        rw [← hat] at hplace'
        rw [← hgoal, ← hsame.sessionId]
        exact hgoal' hplace'
      · -- a session that is over takes no step
        intro hover
        have hterminal := hover from' hplace
        rw [active_of_next hnext] at hterminal
        cases hterminal
    · cases hok

/-! ### One event -/

def eventUtterance : ProgressEvent → Option (AudioDirection × Uuid)
  | .speechStarted direction utteranceId _ | .transcriptFinal direction utteranceId
  | .translationFinal direction utteranceId | .audioFrame direction utteranceId _
  | .utteranceTerminalOutcome direction utteranceId _ | .utteranceTerminal direction utteranceId =>
    some (direction, utteranceId)
  | .unread => none

/-- The sign an event is of its utterance. -/
def eventSign : ProgressEvent → Option Sign
  | .transcriptFinal _ _ => some .transcriptFinal
  | .translationFinal _ _ => some .translationFinal
  | .audioFrame _ _ _ => some .audioFrame
  | .utteranceTerminalOutcome _ _ .completed => some .completed
  | _ => none

/-- From here on an utterance of the direction would be tracked. -/
def Awaiting (observer : ProgressObserver) : AudioDirection → Prop
  | .microphone => observer.state.outgoingUtterance = none
  | .speaker => observer.state.incomingEnabled = true ∧ observer.state.incomingUtterance = none

/-- The event is not of an utterance that is tracked, and does not begin one that is from here on. -/
def Foreign (observer : ProgressObserver) (event : ProgressEvent) : Prop :=
  ∀ direction utteranceId, eventUtterance event = some (direction, utteranceId) →
    observer.tracked direction ≠ some utteranceId
      ∧ ∀ onset, event = .speechStarted direction utteranceId onset → ¬Awaiting observer direction

/-- The event is a sign of the utterance that is tracked in its direction. -/
def Tells (observer : ProgressObserver) (event : ProgressEvent) (direction : AudioDirection)
    (sign : Sign) : Prop :=
  ∃ utteranceId, eventUtterance event = some (direction, utteranceId)
    ∧ observer.tracked direction = some utteranceId ∧ eventSign event = some sign

/-- An event of another utterance leaves the state as it is; the self test may count a recursion. -/
theorem take_foreign {observer : ProgressObserver} {event : ProgressEvent}
    (h : Foreign observer event) :
    ∃ progress, observer.take event = { observer with progress }
      ∧ place progress = place observer.progress := by
  have same : observer.take event = observer →
      ∃ progress, observer.take event = { observer with progress }
        ∧ place progress = place observer.progress :=
    fun heq => ⟨observer.progress, heq, rfl⟩
  cases event with
  | unread => exact same rfl
  | speechStarted direction utteranceId onset =>
    obtain ⟨-, hnot⟩ := h direction utteranceId rfl
    have hnot := hnot onset rfl
    cases direction with
    | microphone =>
      simp only [take, if_neg (show observer.state.outgoingUtterance ≠ none from hnot)]
      exact ⟨_, rfl, place_recordRecursionTrigger _ _⟩
    | speaker =>
      simp only [take]
      split
      · next henabled =>
        rw [if_neg (fun hnone => hnot ⟨henabled, hnone⟩)]
        exact ⟨_, rfl, place_recordRecursionTrigger _ _⟩
      · exact ⟨observer.progress, rfl, rfl⟩
  | transcriptFinal direction utteranceId
  | translationFinal direction utteranceId
  | audioFrame direction utteranceId _
  | utteranceTerminalOutcome direction utteranceId _
  | utteranceTerminal direction utteranceId =>
    obtain ⟨hnot, -⟩ := h direction utteranceId rfl
    refine same ?_
    cases direction with
    | microphone => exact if_neg hnot
    | speaker =>
      refine if_neg ?_
      rintro ⟨henabled, hutterance⟩
      exact hnot (by simp [tracked, henabled, hutterance])

/-- An observer hears a sign of a direction. -/
structure Hears (direction : AudioDirection) (sign : Sign) (observer observer' : ProgressObserver) :
    Prop extends Stays observer observer' where
  progress : observer'.progress = observer.progress
  checkpoint : observer'.state.checkpoint = observer.state.checkpoint
  flags : observer'.flags = fun d =>
    if d = direction then (observer.flags direction).hear sign else observer.flags d

theorem take_microphone {observer : ProgressObserver} {event : ProgressEvent} {utteranceId : Uuid}
    {sign : Sign} (hutterance : eventUtterance event = some (.microphone, utteranceId))
    (htracked : observer.tracked .microphone = some utteranceId) (hsign : eventSign event = some sign) :
    Hears .microphone sign observer (observer.take event) := by
  have hpos : observer.state.outgoingUtterance = some utteranceId := htracked
  cases event with
  | transcriptFinal | translationFinal =>
    cases hutterance
    cases hsign
    simp only [take, if_pos hpos]
    refine ⟨⟨rfl, rfl, rfl, rfl⟩, rfl, rfl, ?_⟩
    funext d
    cases d <;> rfl
  | audioFrame =>
    cases hutterance
    cases hsign
    simp only [take, if_pos hpos]
    cases hcompleted : observer.state.outgoingCompleted with
    | true | false =>
      refine ⟨⟨rfl, rfl, rfl, rfl⟩, rfl, rfl, ?_⟩
      funext d
      cases d <;> simp [flags, Flags.hear, hcompleted]
  | utteranceTerminalOutcome direction id outcome =>
    cases hutterance
    cases outcome with
    | completed =>
      cases hsign
      simp only [take, if_pos hpos, if_pos]
      cases haudio : observer.state.outgoingFirstAudio with
      | true | false =>
        refine ⟨⟨rfl, rfl, rfl, rfl⟩, rfl, rfl, ?_⟩
        funext d
        cases d <;> simp [flags, Flags.hear, haudio]
    | cancelled | dropped => cases hsign
  | speechStarted | utteranceTerminal | unread => cases hsign

theorem take_speaker {observer : ProgressObserver} {event : ProgressEvent} {utteranceId : Uuid}
    {sign : Sign} (hutterance : eventUtterance event = some (.speaker, utteranceId))
    (htracked : observer.tracked .speaker = some utteranceId) (hsign : eventSign event = some sign) :
    Hears .speaker sign observer (observer.take event) := by
  have hpos : observer.state.incomingEnabled = true
      ∧ observer.state.incomingUtterance = some utteranceId := by
    simp only [tracked] at htracked
    split at htracked
    · next henabled => exact ⟨henabled, htracked⟩
    · cases htracked
  cases event with
  | transcriptFinal | translationFinal =>
    cases hutterance
    cases hsign
    simp only [take, if_pos hpos]
    refine ⟨⟨rfl, rfl, rfl, rfl⟩, rfl, rfl, ?_⟩
    funext d
    cases d <;> rfl
  | audioFrame =>
    cases hutterance
    cases hsign
    simp only [take, if_pos hpos]
    cases hcompleted : observer.state.incomingCompleted with
    | true | false =>
      refine ⟨⟨rfl, rfl, rfl, rfl⟩, rfl, rfl, ?_⟩
      funext d
      cases d <;> simp [flags, Flags.hear, hcompleted]
  | utteranceTerminalOutcome direction id outcome =>
    cases hutterance
    cases outcome with
    | completed =>
      cases hsign
      simp only [take, if_pos hpos, if_pos]
      cases haudio : observer.state.incomingFirstAudio with
      | true | false =>
        refine ⟨⟨rfl, rfl, rfl, rfl⟩, rfl, rfl, ?_⟩
        funext d
        cases d <;> simp [flags, Flags.hear, haudio]
    | cancelled | dropped => cases hsign
  | speechStarted | utteranceTerminal | unread => cases hsign

/-- A sign of the tracked utterance is heard in its direction, and does nothing else. -/
theorem take_tells {observer : ProgressObserver} {event : ProgressEvent} {direction : AudioDirection}
    {sign : Sign} (h : Tells observer event direction sign) :
    Hears direction sign observer (observer.take event) := by
  obtain ⟨utteranceId, hutterance, htracked, hsign⟩ := h
  cases direction with
  | microphone => exact take_microphone hutterance htracked hsign
  | speaker => exact take_speaker hutterance htracked hsign

/-! ### Any order -/

/-- The sign of the direction the event is, if it is of the utterance that is tracked there. -/
def told (observer : ProgressObserver) (direction : AudioDirection) (event : ProgressEvent) :
    Option Sign :=
  match eventUtterance event with
  | some (d, utteranceId) =>
    if d = direction ∧ observer.tracked direction = some utteranceId then eventSign event else none
  | none => none

theorem told_eq_some {observer : ProgressObserver} {direction : AudioDirection} {event : ProgressEvent}
    {sign : Sign} : observer.told direction event = some sign ↔ Tells observer event direction sign := by
  unfold told Tells
  cases eventUtterance event with
  | none => simp
  | some utterance =>
    obtain ⟨d, utteranceId⟩ := utterance
    dsimp only
    constructor
    · intro h
      split at h
      · next hat => exact ⟨utteranceId, by rw [hat.1], hat.2, h⟩
      · cases h
    · rintro ⟨id, heq, htracked, hsign⟩
      cases heq
      rw [if_pos ⟨rfl, htracked⟩, hsign]

theorem told_foreign {observer : ProgressObserver} {event : ProgressEvent} (h : Foreign observer event)
    (direction : AudioDirection) : observer.told direction event = none := by
  cases htold : observer.told direction event with
  | none => rfl
  | some sign =>
    obtain ⟨utteranceId, hutterance, htracked, -⟩ := told_eq_some.mp htold
    exact absurd htracked (h direction utteranceId hutterance).1

/-- The self test is at the observer's session and at its checkpoint. -/
def Live (observer : ProgressObserver) : Prop :=
  place observer.progress = some (observer.sessionId, observer.state.checkpoint)

/-- A sign of the tracked utterance of a direction, or an event of another utterance. -/
def Reports (observer : ProgressObserver) (event : ProgressEvent) : Prop :=
  Foreign observer event ∨ ∃ direction sign, Tells observer event direction sign

/-- An event raises the flags of the sign it is, and the checkpoint follows the flags. -/
structure Follows (observer observer' : ProgressObserver) (signs : AudioDirection → List Sign) :
    Prop extends Stays observer observer' where
  flags : ∀ direction,
    observer'.flags direction = (signs direction).foldl Flags.hear (observer.flags direction)
  live : Live observer → Live observer'
    ∧ observer'.state.checkpoint
      = climb (observer'.flags .microphone) (observer'.flags .speaker) observer.state.checkpoint
  ended : Over observer → Over observer' ∧ observer'.state.checkpoint = observer.state.checkpoint

theorem take_reports {observer : ProgressObserver} {event : ProgressEvent}
    (h : Reports observer event) :
    Stays observer (observer.take event)
      ∧ place (observer.take event).progress = place observer.progress
      ∧ (observer.take event).state.checkpoint = observer.state.checkpoint
      ∧ ∀ direction, (observer.take event).flags direction
        = (observer.told direction event).toList.foldl Flags.hear (observer.flags direction) := by
  rcases h with hforeign | ⟨d, sign, htells⟩
  · obtain ⟨progress, htake, hplace⟩ := take_foreign hforeign
    rw [htake]
    refine ⟨⟨rfl, rfl, rfl, rfl⟩, hplace, rfl, ?_⟩
    intro direction
    rw [told_foreign hforeign]
    cases direction <;> rfl
  · have hhears := take_tells htells
    refine ⟨hhears.toStays, by rw [hhears.progress], hhears.checkpoint, ?_⟩
    intro direction
    rw [hhears.flags]
    dsimp only
    split
    · next heq =>
      subst heq
      rw [told_eq_some.mpr htells]
      rfl
    · next hne =>
      cases htold : observer.told direction event with
      | none => rfl
      | some sign' =>
        obtain ⟨_, hutterance', -, -⟩ := told_eq_some.mp htold
        obtain ⟨_, hutterance, -, -⟩ := htells
        cases hutterance.symm.trans hutterance'
        exact absurd rfl hne

theorem observe_follows {observer : ProgressObserver} {event : ProgressEvent}
    (h : Reports observer event) (monotonicNs : Nat → Nat) :
    Follows observer (observer.observe monotonicNs event)
      fun direction => (observer.told direction event).toList := by
  obtain ⟨hstays, hplace, hcheckpoint, hflags⟩ := take_reports h
  obtain ⟨hsame, hlive, hover⟩ := drainLocked_spec monotonicNs (observer.take event) 0
  rw [hstays.sessionId, hplace, hcheckpoint] at hlive
  refine ⟨stays_trans hstays hsame.toStays, ?_, ?_, ?_⟩
  · intro direction
    rw [observe, hsame.flags, hflags]
  · intro hat
    obtain ⟨hgoal, hplace'⟩ := hlive hat
    refine ⟨?_, ?_⟩
    · rw [Live, observe, hplace', hgoal, hsame.sessionId, hstays.sessionId]
    · rw [observe, hgoal, hsame.flags, goal, hcheckpoint]
  · intro hat
    have hover' : Over (observer.take event) := by
      intro checkpoint hc
      rw [hplace, hstays.sessionId] at hc
      exact hat checkpoint hc
    rw [observe, hover hover']
    exact ⟨hover', hcheckpoint⟩

/-- Events one after another, each with the clock as it is read then. -/
def deliver (observer : ProgressObserver) (events : List ((Nat → Nat) × ProgressEvent)) :
    ProgressObserver :=
  events.foldl (fun observer event => observer.observe event.1 event.2) observer

/-- The signs of a direction among the events. -/
def heard (observer : ProgressObserver) (direction : AudioDirection)
    (events : List ((Nat → Nat) × ProgressEvent)) : List Sign :=
  events.filterMap fun event => observer.told direction event.2

theorem Stays.reports {observer observer' : ProgressObserver} (h : Stays observer observer')
    {event : ProgressEvent} : Reports observer' event ↔ Reports observer event := by
  have hawaiting : Awaiting observer' = Awaiting observer := by
    funext direction
    cases direction with
    | microphone => simp only [Awaiting, h.outgoing]
    | speaker => simp only [Awaiting, h.enabled, h.incoming]
  simp only [Reports, Foreign, Tells, h.tracked_eq, hawaiting]

theorem Stays.told_eq {observer observer' : ProgressObserver} (h : Stays observer observer') :
    observer'.told = observer.told := by
  funext direction event
  simp only [told, h.tracked_eq]

theorem within_foldl (flags : Flags) (signs : List Sign) :
    flags.Within (signs.foldl Flags.hear flags) := by
  induction signs generalizing flags with
  | nil => exact flags.within_refl
  | cons sign signs ih =>
    obtain ⟨h₁, h₂, h₃⟩ := flags.within_hear sign
    obtain ⟨i₁, i₂, i₃⟩ := ih (flags.hear sign)
    exact ⟨i₁ ∘ h₁, i₂ ∘ h₂, i₃ ∘ h₃⟩

/-- What events do all together. -/
theorem deliver_follows {observer : ProgressObserver} {events : List ((Nat → Nat) × ProgressEvent)}
    (hreports : ∀ event ∈ events, Reports observer event.2)
    (hgoal : Live observer → observer.goal = observer.state.checkpoint) :
    Follows observer (observer.deliver events) fun direction => observer.heard direction events := by
  induction events using List.reverseRecOn with
  | nil =>
    refine ⟨stays_refl observer, fun _ => rfl, ?_, fun hover => ⟨hover, rfl⟩⟩
    intro hlive
    exact ⟨hlive, (hgoal hlive).symm⟩
  | append_singleton events event ih =>
    have hbefore := ih fun e he => hreports e (List.mem_append_left _ he)
    have hevent := hreports event (List.mem_append_right _ (List.mem_singleton_self event))
    have hstep := observe_follows (hbefore.toStays.reports.mpr hevent) event.1
    have hdeliver : observer.deliver (events ++ [event])
        = (observer.deliver events).observe event.1 event.2 := by
      rw [deliver, List.foldl_append]
      rfl
    rw [hdeliver]
    have hflags := hstep.flags
    rw [hbefore.toStays.told_eq] at hflags
    refine ⟨stays_trans hbefore.toStays hstep.toStays, ?_, ?_, ?_⟩
    · intro direction
      rw [hflags, hbefore.flags, ← List.foldl_append, heard, heard, List.filterMap_append]
      cases htold : observer.told direction event.2 <;> simp [htold]
    · intro hlive
      obtain ⟨hlive', hat⟩ := hbefore.live hlive
      obtain ⟨hlive'', hat'⟩ := hstep.live hlive'
      have hwithin : ∀ direction, ((observer.deliver events).flags direction).Within
          (((observer.deliver events).observe event.1 event.2).flags direction) := by
        intro direction
        rw [hflags]
        exact within_foldl _ _
      refine ⟨hlive'', ?_⟩
      rw [hat', hat, climb_climb (hwithin .microphone) (hwithin .speaker)]
    · intro hover
      obtain ⟨hover', hat⟩ := hbefore.ended hover
      obtain ⟨hover'', hat'⟩ := hstep.ended hover'
      exact ⟨hover'', hat'.trans hat⟩

/-! ### Runs -/

/-- The self test is not at the observer's session any more. -/
def Gone (observer : ProgressObserver) : Prop :=
  ∀ checkpoint, place observer.progress ≠ some (observer.sessionId, checkpoint)

theorem over_of_gone {observer : ProgressObserver} (h : Gone observer) : Over observer := by
  intro checkpoint hplace
  exact absurd hplace (h checkpoint)

/-- The observer and the self test stay together, or apart. -/
structure Kept (observer observer' : ProgressObserver) : Prop where
  sessionId : observer'.sessionId = observer.sessionId
  closed : (∀ direction, (observer.flags direction).Closed) →
    ∀ direction, (observer'.flags direction).Closed
  live : Live observer → Live observer'
  ended : Over observer → Over observer'
  gone : Gone observer → Gone observer'

theorem kept_trans {a b c : ProgressObserver} (hab : Kept a b) (hbc : Kept b c) : Kept a c :=
  ⟨hbc.sessionId.trans hab.sessionId, hbc.closed ∘ hab.closed, hbc.live ∘ hab.live,
    hbc.ended ∘ hab.ended, hbc.gone ∘ hab.gone⟩

theorem closed_of_flags {observer observer' : ProgressObserver}
    (h : observer'.flags = observer.flags) (hclosed : ∀ direction, (observer.flags direction).Closed) :
    ∀ direction, (observer'.flags direction).Closed := by
  rw [h]
  exact hclosed

theorem kept_of_place {observer observer' : ProgressObserver}
    (hsession : observer'.sessionId = observer.sessionId)
    (hplace : place observer'.progress = place observer.progress)
    (hcheckpoint : observer'.state.checkpoint = observer.state.checkpoint)
    (hclosed : (∀ direction, (observer.flags direction).Closed) →
      ∀ direction, (observer'.flags direction).Closed) : Kept observer observer' := by
  refine ⟨hsession, hclosed, ?_, ?_, ?_⟩
  · intro h
    rw [Live, hplace, hsession, hcheckpoint]
    exact h
  · intro h checkpoint hat
    rw [hplace, hsession] at hat
    exact h checkpoint hat
  · intro h checkpoint hat
    rw [hplace, hsession] at hat
    exact h checkpoint hat

theorem kept_refl (observer : ProgressObserver) : Kept observer observer :=
  kept_of_place rfl rfl rfl id

theorem kept_advanceLocked (observer : ProgressObserver) (checkpoint : RoundTripCheckpoint)
    (latency : RoundTripLatency) :
    Kept observer (observer.advanceLocked checkpoint latency).2 := by
  cases hadvance : observer.advanceLocked checkpoint latency with
  | mk result observer' =>
    rcases advanceLocked_cases hadvance with ⟨-, hsame, hat, hplace', from', hplace, hnext⟩ | ⟨-, rfl⟩
    · refine ⟨hsame.sessionId, ?_, ?_, ?_, ?_⟩
      · intro hclosed direction
        rw [hsame.flags]
        exact hclosed direction
      · intro _
        rw [Live, hplace', hat]
      · intro hover
        have hterminal := hover from' hplace
        rw [active_of_next hnext] at hterminal
        cases hterminal
      · intro hgone
        exact absurd hplace (hgone from')
    · exact kept_refl observer'

theorem kept_failLocked (observer : ProgressObserver) : Kept observer observer.failLocked := by
  unfold failLocked
  cases hfail : observer.progress.fail observer.sessionId .runtimeFailed with
  | mk failed progress =>
    rcases fail_place hfail with ⟨rfl, hplace', from', hplace⟩ | ⟨rfl, rfl⟩
    · refine ⟨rfl, closed_of_flags rfl, ?_, ?_, ?_⟩
      · intro _
        exact hplace'
      · intro _ checkpoint hat
        obtain ⟨-, rfl⟩ := Prod.mk.inj (Option.some.inj (hplace'.symm.trans hat))
        rfl
      · intro hgone
        exact absurd hplace (hgone from')
    · exact kept_refl _

theorem closed_foldl {flags : Flags} (h : flags.Closed) (signs : List Sign) :
    (signs.foldl Flags.hear flags).Closed := by
  induction signs generalizing flags with
  | nil => exact h
  | cons sign signs ih => exact ih (Flags.closed_hear h sign)

theorem kept_reports {observer : ProgressObserver} {event : ProgressEvent}
    (h : Reports observer event) : Kept observer (observer.take event) := by
  obtain ⟨hstays, hplace, hcheckpoint, hflags⟩ := take_reports h
  refine kept_of_place hstays.sessionId hplace hcheckpoint ?_
  intro hclosed direction
  rw [hflags]
  exact closed_foldl (hclosed direction) _

/-- A sign is of the tracked utterance of its direction or of another. -/
theorem reports_of_sign (observer : ProgressObserver) {event : ProgressEvent} {sign : Sign}
    (h : eventSign event = some sign) : Reports observer event := by
  by_cases hforeign : Foreign observer event
  · exact .inl hforeign
  · right
    simp only [Foreign, not_forall, not_and_or, not_not] at hforeign
    obtain ⟨direction, utteranceId, hutterance, htracked | ⟨onset, rfl, -⟩⟩ := hforeign
    · exact ⟨direction, sign, utteranceId, hutterance, htracked, h⟩
    · cases h

theorem kept_take (observer : ProgressObserver) (event : ProgressEvent) :
    Kept observer (observer.take event) := by
  cases event with
  | unread => exact kept_refl observer
  | transcriptFinal | translationFinal | audioFrame =>
    exact kept_reports (reports_of_sign observer rfl)
  | speechStarted direction utteranceId onset =>
    cases direction with
    | microphone =>
      simp only [take]
      split
      · -- the utterance is tracked from here on
        have htracked : Kept observer { observer with
            state := { observer.state with
              outgoingUtterance := some utteranceId
              outgoingOnsetNs := some onset } } := by
          exact kept_of_place rfl rfl rfl (closed_of_flags rfl)
        split
        · exact kept_trans htracked (kept_advanceLocked _ _ _)
        · exact htracked
      · exact kept_of_place rfl (place_recordRecursionTrigger _ _) rfl id
    | speaker =>
      simp only [take]
      split
      · split
        · exact kept_of_place rfl rfl rfl (closed_of_flags rfl)
        · exact kept_of_place rfl (place_recordRecursionTrigger _ _) rfl id
      · exact kept_refl observer
  | utteranceTerminalOutcome direction utteranceId outcome =>
    cases outcome with
    | completed => exact kept_reports (reports_of_sign observer rfl)
    | cancelled | dropped =>
      cases direction with
      | microphone | speaker =>
        simp only [take]
        split
        · rw [if_neg (by simp)]
          exact kept_failLocked observer
        · exact kept_refl observer
  | utteranceTerminal direction utteranceId =>
    cases direction with
    | microphone | speaker =>
      simp only [take]
      split
      · exact kept_of_place rfl rfl rfl (closed_of_flags rfl)
      · exact kept_refl observer

theorem kept_drainLocked (observer : ProgressObserver) (monotonicNs : Nat → Nat) (reading : Nat) :
    Kept observer (observer.drainLocked monotonicNs reading) := by
  obtain ⟨hsame, hlive, hover⟩ := drainLocked_spec monotonicNs observer reading
  refine ⟨hsame.sessionId, ?_, ?_, ?_, ?_⟩
  · intro hclosed direction
    rw [hsame.flags]
    exact hclosed direction
  · intro hat
    obtain ⟨hgoal, hplace⟩ := hlive hat
    rw [Live, hplace, hgoal, hsame.sessionId]
  · intro hat
    rw [hover hat]
    exact hat
  · intro hat
    rw [hover (over_of_gone hat)]
    exact hat

/-- What holds of the observer after every call. -/
structure Ready (sessionId : Uuid) (observer : ProgressObserver) : Prop where
  session : observer.sessionId = sessionId
  closed : ∀ direction, (observer.flags direction).Closed
  together : Live observer ∨ Over observer
  goal : Live observer → observer.goal = observer.state.checkpoint

theorem Kept.together {observer observer' : ProgressObserver} (h : Kept observer observer')
    (hbefore : Live observer ∨ Over observer) : Live observer' ∨ Over observer' := by
  rcases hbefore with hlive | hover
  · exact .inl (h.live hlive)
  · exact .inr (h.ended hover)

theorem ready_drainLocked {sessionId : Uuid} {observer : ProgressObserver}
    (hsession : observer.sessionId = sessionId) (hclosed : ∀ direction, (observer.flags direction).Closed)
    (htogether : Live observer ∨ Over observer) (monotonicNs : Nat → Nat) :
    Ready sessionId (observer.drainLocked monotonicNs 0) := by
  have hkept := kept_drainLocked observer monotonicNs 0
  obtain ⟨hsame, hlive, hover⟩ := drainLocked_spec monotonicNs observer 0
  refine ⟨hkept.sessionId.trans hsession, hkept.closed hclosed, hkept.together htogether, ?_⟩
  have hat : Live observer →
      (observer.drainLocked monotonicNs 0).goal = (observer.drainLocked monotonicNs 0).state.checkpoint := by
    intro h
    rw [goal, (hlive h).1, hsame.flags, goal, climb_climb (Flags.within_refl _) (Flags.within_refl _)]
  intro hlive'
  rcases htogether with h | h
  · exact hat h
  · rw [hover h] at hlive'
    exact hat hlive'

theorem ready_observe {sessionId : Uuid} {observer : ProgressObserver} (h : Ready sessionId observer)
    (monotonicNs : Nat → Nat) (event : ProgressEvent) :
    Ready sessionId (observer.observe monotonicNs event) := by
  have hkept := kept_take observer event
  exact ready_drainLocked (hkept.sessionId.trans h.session) (hkept.closed h.closed)
    (hkept.together h.together) monotonicNs

/-- A call of someone else on the self test that is not for the observer to make, and does not start a
    session under an identifier that has been used. -/
def Allowed (sessionId : Uuid) : RoundTripSelfTest.Op → Prop
  | .advance id _ _ | .start _ _ id => id ≠ sessionId
  | _ => True

/-- Such a call leaves the session where it is, leaves the self test without it, or ends it. -/
theorem outside_place {sessionId : Uuid} {op : RoundTripSelfTest.Op} (h : Allowed sessionId op)
    (test : RoundTripSelfTest) :
    place (test.apply op).2 = place test
      ∨ (∀ checkpoint, place (test.apply op).2 ≠ some (sessionId, checkpoint))
      ∨ ((test.apply op).1 = .ended true ∧ (∃ checkpoint, place test = some (sessionId, checkpoint))
        ∧ ∃ checkpoint, place (test.apply op).2 = some (sessionId, checkpoint)
          ∧ checkpoint.isTerminal = true) := by
  have hturn := test.apply_turn op
  generalize test.apply op = out at hturn
  obtain ⟨answer, test'⟩ := out
  dsimp only at hturn ⊢
  cases hturn with
  | refused => exact .inl rfl
  | started preconditions atMs id hover =>
    right
    left
    intro checkpoint hat
    exact h (Prod.mk.inj (Option.some.inj hat)).1
  | advanced s checkpoint latency hs hnext hproof =>
    right
    left
    intro checkpoint hat
    exact h (Prod.mk.inj (Option.some.inj hat)).1
  | counted s count hs | proved s proof hs | noted s transcript translation hs =>
    left
    simp [place, hs]
  | ended op s checkpoint error hs hop hactive hend =>
    by_cases hid : s.id = sessionId
    · right
      right
      refine ⟨rfl, ⟨s.checkpoint, by simp [place, hs, hid]⟩, checkpoint, by simp [place, hid], ?_⟩
      rcases hend with rfl | rfl <;> rfl
    · right
      left
      intro checkpoint hat
      exact hid (Prod.mk.inj (Option.some.inj hat)).1

/-- The condition on a run: what someone else may do. -/
def OutsideAllowed (sessionId : Uuid) (_ : ProgressObserver) : Op → Prop
  | .outside op => Allowed sessionId op
  | _ => True

theorem ready_outside {sessionId : Uuid} {observer : ProgressObserver} (h : Ready sessionId observer)
    {op : RoundTripSelfTest.Op} (hop : Allowed sessionId op) :
    Ready sessionId (observer.apply (.outside op)).2 := by
  have hsession := h.session
  subst hsession
  have hplace := outside_place hop observer.progress
  have hclosed : ∀ direction, ((observer.apply (.outside op)).2.flags direction).Closed :=
    closed_of_flags rfl h.closed
  rcases hplace with hsame | hgone | ⟨-, -, checkpoint, hended, hterminal⟩
  · have hkept : Kept observer (observer.apply (.outside op)).2 :=
      kept_of_place rfl hsame rfl (closed_of_flags rfl)
    refine ⟨rfl, hclosed, hkept.together h.together, fun hlive => h.goal ?_⟩
    rw [Live, ← hsame]
    exact hlive
  · refine ⟨rfl, hclosed, .inr (over_of_gone hgone), fun hlive => absurd hlive (hgone _)⟩
  · refine ⟨rfl, hclosed, .inr ?_, ?_⟩
    · intro checkpoint' hat
      obtain ⟨-, rfl⟩ := Prod.mk.inj (Option.some.inj (hended.symm.trans hat))
      exact hterminal
    · intro hlive
      obtain ⟨-, rfl⟩ := Prod.mk.inj (Option.some.inj (hended.symm.trans hlive))
      exact climb_terminal _ _ hterminal

theorem ready_markReinjecting {sessionId : Uuid} {observer : ProgressObserver}
    (h : Ready sessionId observer) (monotonicNs : Nat → Nat) (englishMonitorCompleteMs : Nat) :
    Ready sessionId (observer.markReinjecting monotonicNs englishMonitorCompleteMs).2 := by
  unfold markReinjecting
  split
  · exact h
  · split
    · next error observer' hadvance =>
      rcases advanceLocked_cases hadvance with ⟨hok, -⟩ | ⟨-, rfl⟩
      · cases hok
      · exact h
    · next observer' hadvance =>
      have hkept := kept_advanceLocked observer .virtualPeerReinjecting
        { RoundTripLatency.default with englishMonitorCompleteMs := some englishMonitorCompleteMs }
      rw [hadvance] at hkept
      exact ready_drainLocked (hkept.sessionId.trans h.session) (hkept.closed h.closed)
        (hkept.together h.together) monotonicNs

theorem ready_markCompleted {sessionId : Uuid} {observer : ProgressObserver}
    (h : Ready sessionId observer) : Ready sessionId observer.markCompleted.2 := by
  unfold markCompleted
  split
  · exact h
  · have hkept := kept_advanceLocked observer .completed .default
    cases hadvance : observer.advanceLocked .completed .default with
    | mk result observer' =>
      rw [hadvance] at hkept
      rcases advanceLocked_cases hadvance with ⟨-, -, hat, -⟩ | ⟨-, rfl⟩
      · refine ⟨hkept.sessionId.trans h.session, hkept.closed h.closed, hkept.together h.together, ?_⟩
        intro _
        rw [goal, hat]
        rfl
      · exact h

theorem ready_beginIncoming {sessionId : Uuid} {observer : ProgressObserver}
    (h : Ready sessionId observer) : Ready sessionId observer.beginIncoming :=
  ⟨h.session, closed_of_flags rfl h.closed, h.together, h.goal⟩

theorem ready_apply {sessionId : Uuid} {observer : ProgressObserver} {op : Op}
    (h : Ready sessionId observer) (hop : OutsideAllowed sessionId observer op) :
    Ready sessionId (observer.apply op).2 := by
  cases op with
  | observe monotonicNs event => exact ready_observe h monotonicNs event
  | beginIncoming => exact ready_beginIncoming h
  | markReinjecting monotonicNs ms => exact ready_markReinjecting h monotonicNs ms
  | markCompleted => exact ready_markCompleted h
  | outside op => exact ready_outside h hop

/-- The self test with a session that was just started. -/
def started (sessionId : Uuid) (atMs : Nat) : RoundTripSelfTest :=
  ⟨some ⟨sessionId, atMs, .waitingForSpeech, 0, .default, none, none, none⟩⟩

/-- An observer as the runner makes it. -/
def opened (sessionId : Uuid) (atMs : Nat) : ProgressObserver := new sessionId (started sessionId atMs)

theorem ready_opened (sessionId : Uuid) (atMs : Nat) : Ready sessionId (opened sessionId atMs) := by
  refine ⟨rfl, ?_, .inl rfl, fun _ => rfl⟩
  intro direction
  cases direction with
  | microphone | speaker =>
    intro haudio
    cases haudio

theorem ready_run {sessionId : Uuid} {atMs : Nat} {ops : List Op}
    (h : Adm apply (OutsideAllowed sessionId) (opened sessionId atMs) ops) :
    Ready sessionId (exec apply (opened sessionId atMs) ops).2 :=
  exec_invariant (I := fun _ observer => Ready sessionId observer) (ready_opened sessionId atMs)
    (fun _ _ _ hready hop => ready_apply hready hop) ops h

/-! ### The session as nobody else ends it -/

/-- No one else ends the session of the observer. -/
def Undisturbed (sessionId : Uuid) (observer : ProgressObserver) : Op → Prop
  | .outside op => Allowed sessionId op ∧ ((observer.progress.apply op).1 = .ended true →
    ∀ checkpoint, place observer.progress ≠ some (sessionId, checkpoint))
  | _ => True

theorem outsideAllowed_of_undisturbed {sessionId : Uuid} {observer : ProgressObserver} {op : Op}
    (h : Undisturbed sessionId observer op) : OutsideAllowed sessionId observer op := by
  cases op with
  | outside op => exact h.1
  | _ => trivial

/-- The observer and the self test are at one checkpoint, or the self test is at another session. -/
def Paired (sessionId : Uuid) (observer : ProgressObserver) : Prop :=
  observer.sessionId = sessionId ∧ (Live observer ∨ Gone observer)

theorem Kept.paired {sessionId : Uuid} {observer observer' : ProgressObserver}
    (h : Kept observer observer') (hbefore : Paired sessionId observer) : Paired sessionId observer' := by
  obtain ⟨hsession, hlive | hgone⟩ := hbefore
  · exact ⟨h.sessionId.trans hsession, .inl (h.live hlive)⟩
  · exact ⟨h.sessionId.trans hsession, .inr (h.gone hgone)⟩

theorem kept_markReinjecting (observer : ProgressObserver) (monotonicNs : Nat → Nat)
    (englishMonitorCompleteMs : Nat) :
    Kept observer (observer.markReinjecting monotonicNs englishMonitorCompleteMs).2 := by
  have hkept := kept_advanceLocked observer .virtualPeerReinjecting
    { RoundTripLatency.default with englishMonitorCompleteMs := some englishMonitorCompleteMs }
  unfold markReinjecting
  split
  · exact kept_refl observer
  · split
    · next hadvance =>
      rw [hadvance] at hkept
      exact hkept
    · next hadvance =>
      rw [hadvance] at hkept
      exact kept_trans hkept (kept_drainLocked _ monotonicNs 0)

theorem paired_apply {sessionId : Uuid} {observer : ProgressObserver} {op : Op}
    (h : Paired sessionId observer) (hop : Undisturbed sessionId observer op) :
    Paired sessionId (observer.apply op).2 := by
  cases op with
  | observe monotonicNs event =>
    exact (kept_trans (kept_take observer event) (kept_drainLocked _ monotonicNs 0)).paired h
  | beginIncoming => exact (kept_of_place rfl rfl rfl (closed_of_flags rfl)).paired h
  | markReinjecting monotonicNs ms => exact (kept_markReinjecting observer monotonicNs ms).paired h
  | markCompleted =>
    simp only [apply, markCompleted]
    split
    · exact h
    · exact (kept_advanceLocked observer _ _).paired h
  | outside op =>
    obtain ⟨hallowed, hending⟩ := hop
    rcases outside_place hallowed observer.progress with hsame | hgone | ⟨hended, ⟨checkpoint, hat⟩, -⟩
    · have hkept : Kept observer (observer.apply (.outside op)).2 :=
        kept_of_place rfl hsame rfl (closed_of_flags rfl)
      exact hkept.paired h
    · refine ⟨h.1, .inr ?_⟩
      intro checkpoint
      rw [show (observer.apply (.outside op)).2.sessionId = sessionId from h.1]
      exact hgone checkpoint
    · exact absurd hat (hending hended checkpoint)

theorem paired_run {sessionId : Uuid} {atMs : Nat} {ops : List Op}
    (h : Adm apply (Undisturbed sessionId) (opened sessionId atMs) ops) :
    Paired sessionId (exec apply (opened sessionId atMs) ops).2 :=
  exec_invariant (I := fun _ observer => Paired sessionId observer)
    ⟨rfl, .inl (show Live (opened sessionId atMs) from rfl)⟩
    (fun _ _ _ hpaired hop => paired_apply hpaired hop) ops h

/-! ### The checkpoint after a set of events -/

/-- Where events lead, whatever their order: the flags are raised by the signs among them, sound and a
    completed utterance stand for the texts, and the checkpoint climbs as far as the flags go. -/
theorem deliver_checkpoint {sessionId : Uuid} {observer : ProgressObserver}
    (hready : Ready sessionId observer) {events : List ((Nat → Nat) × ProgressEvent)}
    (hreports : ∀ event ∈ events, Reports observer event.2) :
    (Live observer → (observer.deliver events).state.checkpoint
        = climb ((observer.flags .microphone).after (· ∈ observer.heard .microphone events))
          ((observer.flags .speaker).after (· ∈ observer.heard .speaker events))
          observer.state.checkpoint)
      ∧ (Over observer → (observer.deliver events).state.checkpoint = observer.state.checkpoint) := by
  have hfollows := deliver_follows hreports hready.goal
  refine ⟨?_, fun hover => (hfollows.ended hover).2⟩
  intro hlive
  rw [(hfollows.live hlive).2, hfollows.flags, hfollows.flags,
    Flags.foldl_hear (hready.closed .microphone), Flags.foldl_hear (hready.closed .speaker)]

theorem mem_heard {observer : ProgressObserver} {direction : AudioDirection}
    {events : List ((Nat → Nat) × ProgressEvent)} {sign : Sign} :
    sign ∈ observer.heard direction events
      ↔ ∃ event ∈ events, Tells observer event.2 direction sign := by
  simp only [heard, List.mem_filterMap, told_eq_some]

/-- In every run, and from every state of it, events of the tracked utterances lead to a checkpoint that
    goes by the set of their signs alone, whatever is mixed in of other utterances; an event of another
    utterance leaves the checkpoint; and while no one else ends the session, the self test is at the
    observer's checkpoint. -/
theorem checkpoint_of_signs {sessionId : Uuid} {atMs : Nat} {ops : List Op}
    (h : Adm apply (OutsideAllowed sessionId) (opened sessionId atMs) ops) :
    (∀ events events' : List ((Nat → Nat) × ProgressEvent),
      (∀ event ∈ events, Reports (exec apply (opened sessionId atMs) ops).2 event.2) →
      (∀ event ∈ events', Reports (exec apply (opened sessionId atMs) ops).2 event.2) →
      (∀ direction sign,
        (∃ event ∈ events, Tells (exec apply (opened sessionId atMs) ops).2 event.2 direction sign)
          ↔ ∃ event ∈ events',
            Tells (exec apply (opened sessionId atMs) ops).2 event.2 direction sign) →
      ((exec apply (opened sessionId atMs) ops).2.deliver events).state.checkpoint
        = ((exec apply (opened sessionId atMs) ops).2.deliver events').state.checkpoint)
      ∧ (∀ monotonicNs event, Foreign (exec apply (opened sessionId atMs) ops).2 event →
        ((exec apply (opened sessionId atMs) ops).2.observe monotonicNs event).state.checkpoint
          = (exec apply (opened sessionId atMs) ops).2.state.checkpoint)
      ∧ (Adm apply (Undisturbed sessionId) (opened sessionId atMs) ops →
        ∀ checkpoint,
          place (exec apply (opened sessionId atMs) ops).2.progress = some (sessionId, checkpoint) →
          checkpoint = (exec apply (opened sessionId atMs) ops).2.state.checkpoint) := by
  have hready := ready_run h
  refine ⟨?_, ?_, ?_⟩
  · generalize (exec apply (opened sessionId atMs) ops).2 = observer at hready
    intro events events' hreports hreports' hsame
    obtain ⟨hlive, hover⟩ := deliver_checkpoint hready hreports
    obtain ⟨hlive', hover'⟩ := deliver_checkpoint hready hreports'
    rcases hready.together with hat | hat
    · have hmem : ∀ direction sign,
          sign ∈ observer.heard direction events ↔ sign ∈ observer.heard direction events' := by
        intro direction sign
        rw [mem_heard, mem_heard]
        exact hsame direction sign
      rw [hlive hat, hlive' hat, Flags.after_congr _ (hmem .microphone),
        Flags.after_congr _ (hmem .speaker)]
    · rw [hover hat, hover' hat]
  · generalize (exec apply (opened sessionId atMs) ops).2 = observer at hready
    intro monotonicNs event hforeign
    have hfollows := observe_follows (.inl hforeign) monotonicNs
    rcases hready.together with hat | hat
    · rw [(hfollows.live hat).2, hfollows.flags, hfollows.flags, told_foreign hforeign,
        told_foreign hforeign]
      exact hready.goal hat
    · exact (hfollows.ended hat).2
  · intro hundisturbed checkpoint hplace
    obtain ⟨hsession, hlive | hgone⟩ := paired_run hundisturbed
    · rw [Live, hsession, hplace] at hlive
      exact (Prod.mk.inj (Option.some.inj hlive)).2
    · exact absurd (hplace.trans (by rw [hsession])) (hgone checkpoint)

/-- Sound before or after the end of the utterance, once or twice. -/
theorem checkpoint_of_signs_twice :
    ((exec apply (opened 7 0) [.observe (fun _ => 9) (.speechStarted .microphone 1 5)]).2.deliver
        [(fun _ => 10, .audioFrame .microphone 1 10),
          (fun _ => 11, .utteranceTerminalOutcome .microphone 1 .completed)]).state.checkpoint
      = ((exec apply (opened 7 0) [.observe (fun _ => 9) (.speechStarted .microphone 1 5)]).2.deliver
        [(fun _ => 10, .utteranceTerminalOutcome .microphone 1 .completed),
          (fun _ => 11, .audioFrame .microphone 1 11),
          (fun _ => 12, .audioFrame .microphone 1 12)]).state.checkpoint := by
  have hadm : Adm apply (OutsideAllowed 7) (opened 7 0)
      [.observe (fun _ => 9) (.speechStarted .microphone 1 5)] := by
    refine adm_of_forall ?_
    intro op hop observer
    rw [List.mem_singleton.mp hop]
    trivial
  have htracked : (exec apply (opened 7 0)
      [.observe (fun _ => 9) (.speechStarted .microphone 1 5)]).2.tracked .microphone = some 1 := by
    rw [show (exec apply (opened 7 0) [.observe (fun _ => 9) (.speechStarted .microphone 1 5)]).2
      = ((opened 7 0).take (.speechStarted .microphone 1 5)).drainLocked (fun _ => 9) 0 from rfl,
      (drainLocked_spec _ _ _).1.tracked_eq]
    rfl
  refine (checkpoint_of_signs hadm).1 _ _ ?_ ?_ ?_
  · intro event hevent
    refine .inr ?_
    simp only [List.mem_cons, List.not_mem_nil, or_false] at hevent
    rcases hevent with rfl | rfl
    · exact ⟨.microphone, .audioFrame, 1, rfl, htracked, rfl⟩
    · exact ⟨.microphone, .completed, 1, rfl, htracked, rfl⟩
  · intro event hevent
    refine .inr ?_
    simp only [List.mem_cons, List.not_mem_nil, or_false] at hevent
    rcases hevent with rfl | rfl | rfl
    · exact ⟨.microphone, .completed, 1, rfl, htracked, rfl⟩
    · exact ⟨.microphone, .audioFrame, 1, rfl, htracked, rfl⟩
    · exact ⟨.microphone, .audioFrame, 1, rfl, htracked, rfl⟩
  · intro direction sign
    simp only [← told_eq_some, told, eventUtterance, eventSign]
    simp only [List.mem_cons, List.not_mem_nil, or_false, exists_eq_or_imp, exists_eq_left]
    tauto

end ProgressObserver

end Translator.Control
