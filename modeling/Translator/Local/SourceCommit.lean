import Translator.Schemes.KeyedMap
import Translator.Schemes.Run
import Translator.Schemes.Text

/-! `SourceCommit`: the translation of one utterance is committed once and consumed once.

    Every method runs in sections under the lock, with its callback between two of them; the calls that
    are between two sections are kept apart, and any call may run its next section at any time. -/

namespace Translator.Local
open Schemes

/-- `_State`. -/
inductive CommitState where
  | active | finalizing | final | consuming | consumed | cancelled | failed
  deriving DecidableEq, Repr

/-- The states in which the text is gone for good. -/
def CommitState.over : CommitState → Bool
  | .cancelled | .failed | .consumed => true
  | _ => false

inductive CommitError where
  /-- `SourceCommitProtocolError`. -/
  | protocol (message : String)
  /-- `SourceCommitUnavailable`. -/
  | unavailable
  deriving DecidableEq, Repr

structure SourceCommit where
  state : CommitState
  committedTranslation : Option Text
  deriving DecidableEq

/-- What becomes of a callback; a `BaseException` is not an `Exception`. -/
inductive Callback (α : Type) where
  | returned (value : α)
  | exception
  | baseException
  deriving DecidableEq

namespace SourceCommit

def new : SourceCommit := ⟨.active, none⟩

variable (c : SourceCommit)

/-- The property `committed_translation`. -/
def committed : Option Text := if c.state = .final then c.committedTranslation else none

/-- `_raise_for_state`. -/
def raiseForState (finalize : Bool) : CommitError :=
  match c.state with
  | .active => .protocol "source is not final"
  | .cancelled => .protocol "source commit is cancelled"
  | .failed => .protocol "source commit failed"
  | .consuming | .consumed =>
    if finalize then .protocol "source commit is already final"
    else .protocol "committed translation was already consumed"
  | .finalizing | .final => .protocol "source commit is already final"

/-- `_observe_hypothesis`. -/
def observeHypothesis : Except CommitError Unit :=
  if c.state = .active then .ok () else .error (c.raiseForState false)

/-- The first section of `finalize` and of `finalize_async`. -/
def beginFinalize (letters : Letters) (sourceText : Text) (endOfUtterance : Bool) :
    Except CommitError SourceCommit :=
  if c.state ≠ .active then .error (c.raiseForState true)
  else if !endOfUtterance then
    .error (.protocol "end_of_utterance is required for final source commit")
  else if sourceText.strip letters = [] then .error .unavailable
  else .ok { c with state := .finalizing }

/-- `_fail_if_in_progress`. -/
def failIfInProgress (expected : CommitState) : SourceCommit :=
  if c.state = expected then ⟨.failed, none⟩ else c

/-- The last section of `finalize`. -/
def endFinalize (translation : Text) : Except CommitError SourceCommit :=
  if c.state ≠ .finalizing then .error (c.raiseForState true) else .ok ⟨.final, some translation⟩

/-- The first section of `synthesize_once` and of `stream_once`: the text is taken out. -/
def beginConsume : Except CommitError Text × SourceCommit :=
  if c.state ≠ .final then (.error (c.raiseForState false), c)
  else
    match c.committedTranslation with
    | none => (.error .unavailable, { c with state := .failed })
    | some translation => (.ok translation, ⟨.consuming, none⟩)

/-- The last section of `synthesize_once` and of `stream_once`. -/
def endConsume : Except CommitError SourceCommit :=
  if c.state ≠ .consuming then .error (c.raiseForState false) else .ok { c with state := .consumed }

def cancel : Except CommitError SourceCommit :=
  if c.state = .cancelled then .error (.protocol "source commit is already cancelled")
  else .ok ⟨.cancelled, none⟩

end SourceCommit

/-- A call whose callback runs. -/
inductive CommitCall where
  | finalizing
  | consuming (streaming : Bool)
  deriving DecidableEq

/-- The utterance, and the calls between two sections. -/
structure Commits where
  commit : SourceCommit
  calls : Table Nat CommitCall

namespace Commits

/-- What can happen next; `ρ` is what a consumer makes of the text. -/
inductive Op (ρ : Type) where
  | observe
  | read
  | finalize (call : Nat) (sourceText : Text) (endOfUtterance : Bool)
  | translated (call : Nat) (outcome : Callback Text)
  | consume (call : Nat) (streaming : Bool)
  | streamed (call : Nat) (item : ρ)
  | produced (call : Nat) (outcome : Callback ρ)
  | cancel

inductive Answer (ρ : Type) where
  | observed
  | read (translation : Option Text)
  /-- The callback is called; there is nothing to report yet. -/
  | begun
  /-- `finalize` returns the text. -/
  | translation (translation : Text)
  /-- The text is taken out, and the consumer's callback is called with it. -/
  | handed (translation : Text)
  | item (item : ρ)
  /-- The consumer reports success; `stream_once` has no result. -/
  | succeeded (result : Option ρ)
  | cancelled
  | raised (error : CommitError)
  /-- What the callback raised goes through. -/
  | propagated
  /-- There is no such call to run. -/
  | idle

def new : Commits := ⟨.new, ∅⟩

variable {ρ : Type} (letters : Letters) (s : Commits)

/-- What follows the callback of `finalize`. -/
def translated (outcome : Callback Text) : Answer ρ × SourceCommit :=
  match outcome with
  | .baseException => (.propagated, s.commit)
  | .exception => (.raised .unavailable, s.commit.failIfInProgress .finalizing)
  | .returned value =>
    let translation := value.strip letters
    if translation = [] then (.raised .unavailable, s.commit.failIfInProgress .finalizing)
    else
      match s.commit.endFinalize translation with
      | .error error => (.raised error, s.commit)
      | .ok commit => (.translation translation, commit)

/-- What follows the callback of a consumer. -/
def produced (streaming : Bool) (outcome : Callback ρ) : Answer ρ × SourceCommit :=
  match outcome with
  | .exception =>
    (if streaming then .propagated else .raised .unavailable, s.commit.failIfInProgress .consuming)
  | .baseException =>
    (.propagated, if streaming then s.commit.failIfInProgress .consuming else s.commit)
  | .returned result =>
    match s.commit.endConsume with
    | .error error => (.raised error, s.commit)
    | .ok commit => (.succeeded (if streaming then none else some result), commit)

def step (s : Commits) : Op ρ → Answer ρ × Commits
  | .observe =>
    match s.commit.observeHypothesis with
    | .error error => (.raised error, s)
    | .ok () => (.observed, s)
  | .read => (.read s.commit.committed, s)
  | .finalize call sourceText endOfUtterance =>
    if call ∈ s.calls then (.idle, s)
    else
      match s.commit.beginFinalize letters sourceText endOfUtterance with
      | .error error => (.raised error, s)
      | .ok commit => (.begun, ⟨commit, s.calls.insert call .finalizing⟩)
  | .translated call outcome =>
    match s.calls.lookup call with
    | some .finalizing =>
      let (answer, commit) := s.translated letters outcome
      (answer, ⟨commit, s.calls.erase call⟩)
    | _ => (.idle, s)
  | .consume call streaming =>
    if call ∈ s.calls then (.idle, s)
    else
      match s.commit.beginConsume with
      | (.error error, commit) => (.raised error, { s with commit := commit })
      | (.ok translation, commit) =>
        (.handed translation, ⟨commit, s.calls.insert call (.consuming streaming)⟩)
  | .streamed call item =>
    match s.calls.lookup call with
    | some (.consuming true) => (.item item, s)
    | _ => (.idle, s)
  | .produced call outcome =>
    match s.calls.lookup call with
    | some (.consuming streaming) =>
      let (answer, commit) := s.produced streaming outcome
      (answer, ⟨commit, s.calls.erase call⟩)
    | _ => (.idle, s)
  | .cancel =>
    match s.commit.cancel with
    | .error error => (.raised error, s)
    | .ok commit => (.cancelled, { s with commit := commit })

/-! ### What a section can do -/

/-- An answer that neither gives the text to anyone nor reports a success or a cancellation. -/
def Answer.quiet : Answer ρ → Bool
  | .translation _ | .handed _ | .succeeded _ | .cancelled => false
  | _ => true

/-- The text a call of `finalize` returns. -/
def Answer.returned? : Answer ρ → Option Text
  | .translation t => some t
  | _ => none

/-- The text a consumer takes. -/
def Answer.handed? : Answer ρ → Option Text
  | .handed t => some t
  | _ => none

/-- The changes of the utterance, with the answers they come with. -/
inductive Move (c : SourceCommit) : Answer ρ → SourceCommit → Prop
  | stays (answer : Answer ρ) (hquiet : answer.quiet = true) : Move c answer c
  | began (h : c.state = .active) : Move c .begun { c with state := .finalizing }
  | settled (t : Text) (h : c.state = .finalizing) : Move c (.translation t) ⟨.final, some t⟩
  | taken (t : Text) (h : c.state = .final) (ht : c.committedTranslation = some t) :
      Move c (.handed t) ⟨.consuming, none⟩
  | finished (result : Option ρ) (h : c.state = .consuming) :
      Move c (.succeeded result) { c with state := .consumed }
  | broken (answer : Answer ρ) (hquiet : answer.quiet = true)
      (h : c.state = .finalizing ∨ c.state = .consuming) : Move c answer ⟨.failed, none⟩
  | lost (h : c.state = .final) (ht : c.committedTranslation = none) :
      Move c (.raised .unavailable) ⟨.failed, none⟩
  | cancelled (h : c.state ≠ .cancelled) : Move c .cancelled ⟨.cancelled, none⟩

theorem fail_move (c : SourceCommit) {answer : Answer ρ} (hquiet : answer.quiet = true)
    {expected : CommitState} (h : expected = .finalizing ∨ expected = .consuming) :
    Move c answer (c.failIfInProgress expected) := by
  unfold SourceCommit.failIfInProgress
  split
  · next hstate => exact .broken answer hquiet (hstate ▸ h)
  · exact .stays answer hquiet

theorem translated_move (s : Commits) (outcome : Callback Text) {told : Answer ρ × SourceCommit}
    (htold : s.translated letters outcome = told) : Move s.commit told.1 told.2 := by
  subst htold
  cases outcome with
  | baseException => exact .stays _ rfl
  | exception => exact fail_move _ rfl (.inl rfl)
  | returned value =>
    by_cases hempty : value.strip letters = []
    · simp only [translated, if_pos hempty]
      exact fail_move _ rfl (.inl rfl)
    · by_cases h : s.commit.state = .finalizing
      · simp only [translated, SourceCommit.endFinalize, hempty, h, ne_eq, not_true_eq_false, if_false]
        exact .settled _ h
      · simp only [translated, SourceCommit.endFinalize, hempty, h, ne_eq, not_false_eq_true, if_false,
          if_true]
        exact .stays _ rfl

theorem produced_move (s : Commits) (streaming : Bool) (outcome : Callback ρ) :
    Move s.commit (s.produced streaming outcome).1 (s.produced streaming outcome).2 := by
  unfold produced
  cases outcome with
  | exception => exact fail_move _ (by cases streaming <;> rfl) (.inr rfl)
  | baseException =>
    cases streaming with
    | true => exact fail_move _ rfl (.inr rfl)
    | false => exact .stays _ rfl
  | returned result =>
    dsimp only
    unfold SourceCommit.endConsume
    by_cases h : s.commit.state = .consuming
    · rw [if_neg (by simpa using h)]
      exact .finished _ h
    · rw [if_pos h]
      exact .stays _ rfl

/-- The inversion lemma: one section makes one move. -/
theorem step_move (s : Commits) (op : Op ρ) :
    Move s.commit (step letters s op).1 (step letters s op).2.commit := by
  cases op with
  | observe =>
    simp only [step]
    split <;> exact .stays _ rfl
  | read => exact .stays _ rfl
  | finalize call sourceText endOfUtterance =>
    simp only [step]
    split
    · exact .stays _ rfl
    · unfold SourceCommit.beginFinalize
      by_cases h : s.commit.state = .active
      · rw [if_neg (by simpa using h)]
        repeat' split
        all_goals first | exact .stays _ rfl | skip
        next heq =>
          repeat' split at heq
          all_goals cases heq
          exact .began h
      · rw [if_pos h]
        exact .stays _ rfl
  | translated call outcome =>
    simp only [step]
    split
    · exact translated_move letters s outcome rfl
    · exact .stays _ rfl
  | consume call streaming =>
    simp only [step]
    split
    · exact .stays _ rfl
    · unfold SourceCommit.beginConsume
      by_cases h : s.commit.state = .final
      · rw [if_neg (by simpa using h)]
        cases ht : s.commit.committedTranslation with
        | none => exact .lost h ht
        | some t => exact .taken t h ht
      · rw [if_pos h]
        exact .stays _ rfl
  | streamed call item =>
    simp only [step]
    split <;> exact .stays _ rfl
  | produced call outcome =>
    simp only [step]
    split
    · next streaming _ => exact produced_move s streaming outcome
    · exact .stays _ rfl
  | cancel =>
    simp only [step, SourceCommit.cancel]
    by_cases h : s.commit.state = .cancelled
    · rw [if_pos h]
      exact .stays _ rfl
    · rw [if_neg h]
      exact .cancelled h

/-! ### Every interleaving -/

abbrev Entry (ρ : Type) := Op ρ × Answer ρ

/-- The texts that calls of `finalize` returned. -/
def returned (log : List (Entry ρ)) : List Text := log.filterMap fun entry => entry.2.returned?

/-- The texts that consumers took. -/
def handed (log : List (Entry ρ)) : List Text := log.filterMap fun entry => entry.2.handed?

def Answer.isCancelled : Answer ρ → Bool
  | .cancelled => true
  | _ => false

/-- Once the utterance is cancelled nobody gets the text and nobody reports a success. -/
def QuietAfterCancel (log : List (Entry ρ)) : Prop :=
  ∀ before entry after, log = before ++ entry :: after → entry.2.isCancelled = true →
    ∀ later ∈ after, later.2.quiet = true

/-- What holds of a run so far. -/
structure Story (log : List (Entry ρ)) (c : SourceCommit) : Prop where
  committed_iff : c.committedTranslation.isSome = true ↔ c.state = .final
  unreturned : c.state = .active ∨ c.state = .finalizing → returned log = []
  returned_le : (returned log).length ≤ 1
  unhanded : c.state = .active ∨ c.state = .finalizing ∨ c.state = .final → handed log = []
  handed_le : (handed log).length ≤ 1
  handed_returned : ∀ t ∈ handed log, t ∈ returned log
  current : ∀ t, c.committedTranslation = some t → t ∈ returned log
  cancelled : (∃ entry ∈ log, entry.2.isCancelled = true) → c.state = .cancelled
  quiet : QuietAfterCancel log

theorem story_new : Story ([] : List (Entry ρ)) .new where
  committed_iff := by decide
  unreturned := fun _ => rfl
  returned_le := Nat.zero_le _
  unhanded := fun _ => rfl
  handed_le := Nat.zero_le _
  handed_returned := by rintro t ⟨⟩
  current := by rintro t ⟨⟩
  cancelled := by rintro ⟨entry, ⟨⟩, -⟩
  quiet := by
    intro before entry after h
    cases before <;> cases h

theorem returned_concat (log : List (Entry ρ)) (entry : Entry ρ) :
    returned (log ++ [entry]) = returned log ++ entry.2.returned?.toList := by
  rw [returned, List.filterMap_append]
  cases h : entry.2.returned? <;> simp [h, returned]

theorem handed_concat (log : List (Entry ρ)) (entry : Entry ρ) :
    handed (log ++ [entry]) = handed log ++ entry.2.handed?.toList := by
  rw [handed, List.filterMap_append]
  cases h : entry.2.handed? <;> simp [h, handed]

/-- One entry more, if it is quiet after a cancellation. -/
theorem quiet_concat {log : List (Entry ρ)} (h : QuietAfterCancel log) {entry : Entry ρ}
    (hentry : (∃ e ∈ log, e.2.isCancelled = true) → entry.2.quiet = true) :
    QuietAfterCancel (log ++ [entry]) := by
  intro before e after heq hcancelled later hlater
  rcases List.eq_nil_or_concat after with rfl | ⟨after', last, rfl⟩
  · cases hlater
  · rw [List.concat_eq_append] at heq hlater
    have hsplit : log ++ [entry] = (before ++ e :: after') ++ [last] := by
      rw [heq, List.append_assoc, List.cons_append]
    obtain ⟨rfl, hlast⟩ := List.append_inj' hsplit rfl
    rcases List.mem_append.mp hlater with hlater | hlater
    · exact h before e after' rfl hcancelled later hlater
    · rw [List.mem_singleton.mp hlater, ← List.singleton_inj.mp hlast]
      exact hentry ⟨e, List.mem_append_right _ (List.mem_cons_self ..), hcancelled⟩

/-- A quiet answer is none of the four. -/
theorem quiet_facts {answer : Answer ρ} (h : answer.quiet = true) :
    answer.returned? = none ∧ answer.handed? = none ∧ answer.isCancelled = false := by
  cases answer <;> first | exact ⟨rfl, rfl, rfl⟩ | cases h

theorem cancelled_concat {log : List (Entry ρ)} {op : Op ρ} {answer : Answer ρ}
    (hanswer : answer.isCancelled = false)
    (h : ∃ entry ∈ log ++ [(op, answer)], entry.2.isCancelled = true) :
    ∃ entry ∈ log, entry.2.isCancelled = true := by
  obtain ⟨entry, hmem, hentry⟩ := h
  rcases List.mem_append.mp hmem with hmem | hmem
  · exact ⟨entry, hmem, hentry⟩
  · rw [List.mem_singleton.mp hmem, hanswer] at hentry
    cases hentry

variable {log : List (Entry ρ)} {c c' : SourceCommit} {op : Op ρ} {answer : Answer ρ}

/-- A quiet answer keeps the story when the utterance goes no step back. -/
theorem story_quiet (h : Story log c) (hquiet : answer.quiet = true)
    (hiff : c'.committedTranslation.isSome = true ↔ c'.state = .final)
    (hearly : c'.state = .active ∨ c'.state = .finalizing → c.state = .active ∨ c.state = .finalizing)
    (hunhanded : c'.state = .active ∨ c'.state = .finalizing ∨ c'.state = .final →
      c.state = .active ∨ c.state = .finalizing ∨ c.state = .final)
    (hcurrent : ∀ t, c'.committedTranslation = some t → c.committedTranslation = some t)
    (hcancelled : c.state = .cancelled → c'.state = .cancelled) :
    Story (log ++ [(op, answer)]) c' := by
  obtain ⟨hret, hhand, hcan⟩ := quiet_facts hquiet
  refine ⟨hiff, ?_, ?_, ?_, ?_, ?_, ?_, fun hc => hcancelled (h.cancelled (cancelled_concat hcan hc)),
    quiet_concat h.quiet fun _ => hquiet⟩
  all_goals simp only [returned_concat, handed_concat, hret, hhand, Option.toList_none, List.append_nil]
  · exact fun hstate => h.unreturned (hearly hstate)
  · exact h.returned_le
  · exact fun hstate => h.unhanded (hunhanded hstate)
  · exact h.handed_le
  · exact h.handed_returned
  · exact fun t ht => h.current t (hcurrent t ht)

/-- `finalize` returns the text: it is the first one. -/
theorem story_settled (h : Story log c) (hstate : c.state = .finalizing) (t : Text) :
    Story (log ++ [(op, .translation t)]) ⟨.final, some t⟩ := by
  have hnone := h.unreturned (.inr hstate)
  have hunhanded := h.unhanded (.inr (.inl hstate))
  have hlive : ¬ ∃ entry ∈ log, entry.2.isCancelled = true := by
    intro hcancelled
    have := h.cancelled hcancelled
    rw [hstate] at this
    cases this
  refine ⟨by simp, ?_, ?_, ?_, ?_, ?_, ?_, fun hc => absurd (cancelled_concat rfl hc) hlive,
    quiet_concat h.quiet fun hc => absurd hc hlive⟩
  all_goals simp only [returned_concat, handed_concat, hnone, hunhanded]
  · rintro (hs | hs) <;> cases hs
  · exact Nat.le_refl _
  · intro _
    rfl
  · exact Nat.zero_le _
  · rintro x ⟨⟩
  · rintro x ⟨⟩
    exact List.mem_singleton_self t

/-- A consumer takes the text: it is the one that was returned. -/
theorem story_taken (h : Story log c) (hstate : c.state = .final) {t : Text}
    (ht : c.committedTranslation = some t) : Story (log ++ [(op, .handed t)]) ⟨.consuming, none⟩ := by
  have hunhanded := h.unhanded (.inr (.inr hstate))
  have hlive : ¬ ∃ entry ∈ log, entry.2.isCancelled = true := by
    intro hcancelled
    have := h.cancelled hcancelled
    rw [hstate] at this
    cases this
  refine ⟨by simp, ?_, ?_, ?_, ?_, ?_, ?_, fun hc => absurd (cancelled_concat rfl hc) hlive,
    quiet_concat h.quiet fun hc => absurd hc hlive⟩
  all_goals simp only [returned_concat, handed_concat, hunhanded]
  · rintro (hs | hs) <;> cases hs
  · simpa [Answer.returned?] using h.returned_le
  · rintro (hs | hs | hs) <;> cases hs
  · exact Nat.le_refl _
  · intro x hx
    rw [List.mem_singleton.mp hx]
    exact List.mem_append_left _ (h.current t ht)
  · rintro x ⟨⟩

/-- A consumer reports success. -/
theorem story_finished (h : Story log c) (hstate : c.state = .consuming) (result : Option ρ) :
    Story (log ++ [(op, .succeeded result)]) { c with state := .consumed } := by
  have hnone : c.committedTranslation.isSome = true ↔ False := by
    rw [h.committed_iff, hstate]
    decide
  have hlive : ¬ ∃ entry ∈ log, entry.2.isCancelled = true := by
    intro hcancelled
    have := h.cancelled hcancelled
    rw [hstate] at this
    cases this
  refine ⟨by simpa using hnone, ?_, ?_, ?_, ?_, ?_, ?_,
    fun hc => absurd (cancelled_concat rfl hc) hlive, quiet_concat h.quiet fun hc => absurd hc hlive⟩
  all_goals simp only [returned_concat, handed_concat, Answer.returned?, Answer.handed?,
    Option.toList_none, List.append_nil]
  · rintro (hs | hs) <;> cases hs
  · exact h.returned_le
  · rintro (hs | hs | hs) <;> cases hs
  · exact h.handed_le
  · exact h.handed_returned
  · exact h.current

theorem story_cancelled (h : Story log c) (hstate : c.state ≠ .cancelled) :
    Story (log ++ [(op, .cancelled)]) ⟨.cancelled, none⟩ := by
  refine ⟨by simp, ?_, ?_, ?_, ?_, ?_, ?_, fun _ => rfl,
    quiet_concat h.quiet fun hc => absurd (h.cancelled hc) hstate⟩
  all_goals simp only [returned_concat, handed_concat, Answer.returned?, Answer.handed?,
    Option.toList_none, List.append_nil]
  · rintro (hs | hs) <;> cases hs
  · exact h.returned_le
  · rintro (hs | hs | hs) <;> cases hs
  · exact h.handed_le
  · exact h.handed_returned
  · rintro t ⟨⟩

theorem story_move (h : Story log c) (hm : Move c answer c') : Story (log ++ [(op, answer)]) c' := by
  cases hm with
  | stays answer hquiet =>
    exact story_quiet h hquiet h.committed_iff id id (fun _ => id) id
  | began hstate =>
    have hnone : c.committedTranslation.isSome = true ↔ False := by
      rw [h.committed_iff, hstate]
      decide
    exact story_quiet h rfl (by simpa using hnone) (fun _ => .inl hstate) (fun _ => .inl hstate)
      (fun _ => id) fun hc => by rw [hstate] at hc; cases hc
  | settled t hstate => exact story_settled h hstate t
  | taken t hstate ht => exact story_taken h hstate ht
  | finished result hstate => exact story_finished h hstate result
  | broken answer hquiet hstate =>
    refine story_quiet h hquiet (by simp) (by simp) (by simp) (by simp) fun hc => ?_
    rw [hc] at hstate
    rcases hstate with hs | hs <;> cases hs
  | lost hstate ht =>
    refine story_quiet h rfl (by simp) (by simp) (by simp) (by simp) fun hc => ?_
    rw [hstate] at hc
    cases hc
  | cancelled hstate => exact story_cancelled h hstate

theorem run_story (letters : Letters) (ops : List (Op ρ)) :
    Story (exec (step letters) new ops).1 (exec (step letters) new ops).2.commit :=
  exec_invariant (I := fun log s => Story log s.commit) story_new
    (fun _ s op h _ => story_move h (step_move letters s op)) ops (adm_true _ _ _)

theorem move_over (hm : Move c answer c') (h : c.state.over = true) : c'.state.over = true := by
  cases hm with
  | stays answer hquiet => exact h
  | began hstate => rw [hstate] at h; cases h
  | settled t hstate => rw [hstate] at h; cases h
  | taken t hstate ht => rw [hstate] at h; cases h
  | finished result hstate => rfl
  | broken answer hquiet hstate => rfl
  | lost hstate ht => rfl
  | cancelled hstate => rfl

/-- For every interleaving of the sections of any calls: the text is there exactly in the state FINAL;
    one call of `finalize` returns it at most, and one consumer takes it at most; after a cancellation
    nobody gets it and no consumer reports a success; and from CANCELLED, FAILED and CONSUMED the
    utterance never comes back to FINAL. -/
theorem commit_once (letters : Letters) (ops : List (Op ρ)) :
    let run := exec (step letters) new ops
    (run.2.commit.committedTranslation.isSome = true ↔ run.2.commit.state = .final)
      ∧ (returned run.1).length ≤ 1
      ∧ (handed run.1).length ≤ 1 ∧ (∀ t ∈ handed run.1, t ∈ returned run.1)
      ∧ QuietAfterCancel run.1
      ∧ (run.2.commit.state.over = true → ∀ more : List (Op ρ),
        (exec (step letters) new (ops ++ more)).2.commit.state ≠ .final) := by
  intro run
  have h := run_story letters ops
  refine ⟨h.committed_iff, h.returned_le, h.handed_le, h.handed_returned, h.quiet, fun hover more => ?_⟩
  have hstays : (exec (step letters) run.2 more).2.commit.state.over = true :=
    exec_state_invariant (I := fun s : Commits => s.commit.state.over = true) hover
      (fun s op hs => move_over (step_move letters s op) hs) more
  rw [exec_append_state]
  intro hfinal
  rw [hfinal] at hstays
  cases hstays

end Commits

end Translator.Local
