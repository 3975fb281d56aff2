import Translator.Realtime.Pending

/-! Overlapping utterances are dropped whole.

    `Fate` says what has become of an utterance: its frames were all forwarded, and while it has no final
    it is the current one; or none of them was, and its last frame is answered by an overflow error and a
    final; or it was cancelled. An utterance comes to a fate of its own while frames come one utterance
    after another and one whose first frame was blocked is blocked to its end. The source forgets the
    second half: a timer may retire the current utterance between two frames of the next one. -/

namespace Translator.Realtime
open Schemes
open Wire (Uuid)
open Sidecar (OpenProviderSession ProviderInputFrame UtteranceOutcome)

/-! ### Frames, one utterance after another -/

def framesOf (utteranceId : Uuid) (frames : List ProviderInputFrame) : List ProviderInputFrame :=
  frames.filter fun frame => frame.utteranceId = utteranceId

/-- The last frame of the utterance is among these. -/
def Complete (frames : List ProviderInputFrame) : Prop := ∃ frame ∈ frames, frame.endOfUtterance = true

/-- The frame goes on with the utterance heard last, or begins a new one after its end. -/
def follows (heard : List ProviderInputFrame) (frame : ProviderInputFrame) : Bool :=
  match heard.getLast? with
  | none => true
  | some last =>
    if last.endOfUtterance then heard.all fun earlier => earlier.utteranceId ≠ frame.utteranceId
    else last.utteranceId = frame.utteranceId

/-- The utterance heard last goes on unless its last frame was its last one. -/
def Orderly (heard : List ProviderInputFrame) : Prop :=
  ∀ last, heard.getLast? = some last → last.endOfUtterance = false →
    ¬ Complete (framesOf last.utteranceId heard)

theorem framesOf_append_self (frames : List ProviderInputFrame) (frame : ProviderInputFrame) :
    framesOf frame.utteranceId (frames ++ [frame]) = framesOf frame.utteranceId frames ++ [frame] := by
  rw [framesOf, List.filter_append]
  simp [framesOf]

theorem framesOf_append_other {utteranceId : Uuid} (frames : List ProviderInputFrame)
    {frame : ProviderInputFrame} (h : utteranceId ≠ frame.utteranceId) :
    framesOf utteranceId (frames ++ [frame]) = framesOf utteranceId frames := by
  rw [framesOf, List.filter_append]
  simp [framesOf, Ne.symm h]

/-- No frame follows the last one of its utterance. -/
theorem Orderly.incomplete {heard : List ProviderInputFrame} (h : Orderly heard) {frame : ProviderInputFrame}
    (hfollows : follows heard frame = true) : ¬ Complete (framesOf frame.utteranceId heard) := by
  unfold follows at hfollows
  split at hfollows
  next hnone =>
    rw [List.getLast?_eq_none_iff.mp hnone]
    rintro ⟨f, hf, -⟩
    cases hf
  next last hlast =>
    split at hfollows
    · rintro ⟨f, hf, -⟩
      obtain ⟨hmem, hid⟩ := List.mem_filter.mp hf
      have := List.all_eq_true.mp hfollows f hmem
      simp at this hid
      exact this hid
    next hopen =>
      rw [← of_decide_eq_true hfollows]
      exact h last hlast (Bool.eq_false_iff.mpr hopen)

theorem Orderly.append {heard : List ProviderInputFrame} (h : Orderly heard) {frame : ProviderInputFrame}
    (hfollows : follows heard frame = true) : Orderly (heard ++ [frame]) := by
  intro last hlast hopen
  rw [List.getLast?_concat] at hlast
  cases hlast
  rw [framesOf_append_self]
  rintro ⟨f, hf, hend⟩
  rcases List.mem_append.mp hf with hold | hnew
  · exact h.incomplete hfollows ⟨f, hold, hend⟩
  · cases List.mem_singleton.mp hnew
    rw [hopen] at hend
    cases hend

/-! ### What becomes of an utterance -/

def Body.isCancelled : Body → Bool
  | .utteranceFinal _ _ _ .cancelled => true
  | _ => false

/-- The utterance has had its final. -/
def HasFinal (told : List Body) : Prop := ∃ body ∈ told, body.isFinal = true

/-- It was cancelled. -/
def Cancelled (told : List Body) : Prop := ∃ body ∈ told, body.isCancelled = true

/-- Nothing is told of it but that it was dropped. -/
def ToldDropped (utteranceId : Uuid) (told : List Body) : Prop :=
  ∃ streamId, told = [.error (some streamId) (some utteranceId) .queueOverflow true,
    .utteranceFinal streamId utteranceId none .dropped]

/-- What has become of an utterance, from its state, the frames that were heard of it and those that were
    forwarded, what was told of it, and whether it is the current one. -/
inductive Fate (utteranceId : Uuid) : Option UtteranceState → (heard forwarded : List ProviderInputFrame) →
    (told : List Body) → (current : Prop) → Prop
  | unheard {current} (hcurrent : ¬ current) : Fate utteranceId none [] [] [] current
  | cancelled {u heard forwarded told current} (hid : u.utteranceId = utteranceId)
    (hfinal : u.finalSent = true) (hcancelled : Cancelled told) :
    Fate utteranceId (some u) heard forwarded told current
  | forwarded {u heard told current} (hid : u.utteranceId = utteranceId) (hdrop : u.dropPending = false)
    (hheard : heard ≠ []) (hinput : u.inputComplete = true → Complete heard)
    (hfinal : u.finalSent = true → Complete heard ∧ HasFinal told)
    (hcurrent : u.finalSent = false → current) :
    Fate utteranceId (some u) heard heard told current
  | blocked {u heard current} (hid : u.utteranceId = utteranceId) (hdrop : u.dropPending = true)
    (hinput : u.inputComplete = false) (hfinal : u.finalSent = false) (hheard : ¬ Complete heard)
    (hcurrent : ¬ current) : Fate utteranceId (some u) heard [] [] current
  | dropped {u heard told current} (hid : u.utteranceId = utteranceId) (hdrop : u.dropPending = true)
    (hfinal : u.finalSent = true) (hheard : Complete heard) (htold : ToldDropped utteranceId told)
    (hcurrent : ¬ current) : Fate utteranceId (some u) heard [] told current

def Fates (s : OpenAISession) : Prop :=
  Orderly s.heard ∧ ∀ utteranceId, Fate utteranceId (s.utterance utteranceId) (framesOf utteranceId s.heard)
    (framesOf utteranceId (s.forwarded.map Forwarded.frame)) (eventsOf utteranceId s.published)
    (s.currentUtteranceId = some utteranceId)

section Rules

variable {utteranceId : Uuid} {o : Option UtteranceState} {u : UtteranceState}
  {heard forwarded : List ProviderInputFrame} {told : List Body} {current : Prop}

theorem Cancelled.hasFinal (h : Cancelled told) : HasFinal told := by
  obtain ⟨body, hbody, hcancelled⟩ := h
  refine ⟨body, hbody, ?_⟩
  cases body <;> first | rfl | cases hcancelled

theorem Cancelled.append (h : Cancelled told) (more : List Body) : Cancelled (told ++ more) := by
  obtain ⟨body, hbody, hcancelled⟩ := h
  exact ⟨body, List.mem_append_left _ hbody, hcancelled⟩

theorem HasFinal.append (h : HasFinal told) (more : List Body) : HasFinal (told ++ more) := by
  obtain ⟨body, hbody, hfinal⟩ := h
  exact ⟨body, List.mem_append_left _ hbody, hfinal⟩

theorem Complete.append (h : Complete heard) (more : List ProviderInputFrame) : Complete (heard ++ more) := by
  obtain ⟨frame, hframe, hend⟩ := h
  exact ⟨frame, List.mem_append_left _ hframe, hend⟩

theorem complete_last (heard : List ProviderInputFrame) {frame : ProviderInputFrame}
    (h : frame.endOfUtterance = true) : Complete (heard ++ [frame]) :=
  ⟨frame, List.mem_append_right _ (List.mem_singleton_self frame), h⟩

theorem incomplete_append (h : ¬ Complete heard) {frame : ProviderInputFrame}
    (hopen : frame.endOfUtterance = false) : ¬ Complete (heard ++ [frame]) := by
  rintro ⟨f, hf, hend⟩
  rcases List.mem_append.mp hf with hold | hnew
  · exact h ⟨f, hold, hend⟩
  · cases List.mem_singleton.mp hnew
    rw [hopen] at hend
    cases hend

/-- The current utterance is known, and more may be told of it. -/
theorem Fate.tell (h : Fate utteranceId o heard forwarded told current) (hcurrent : current) :
    ∃ u, o = some u ∧ ∀ v : UtteranceState, v.utteranceId = u.utteranceId → v.dropPending = u.dropPending →
      v.inputComplete = u.inputComplete → v.finalSent = u.finalSent → ∀ more,
        Fate utteranceId (some v) heard forwarded (told ++ more) current := by
  cases h with
  | unheard hnot | blocked _ _ _ _ _ hnot | dropped _ _ _ _ _ hnot => exact absurd hcurrent hnot
  | @cancelled u _ _ _ _ hid hfinal hcancelled =>
    exact ⟨u, rfl, fun v hvid _ _ hvfinal more =>
      .cancelled (hvid.trans hid) (hvfinal.trans hfinal) (hcancelled.append more)⟩
  | @forwarded u _ _ _ hid hdrop hheard hinput hfinal hopen =>
    refine ⟨u, rfl, fun v hvid hvdrop hvinput hvfinal more =>
      .forwarded (hvid.trans hid) (hvdrop.trans hdrop) hheard (hvinput ▸ hinput) (fun h => ?_) (hvfinal ▸ hopen)⟩
    obtain ⟨hcomplete, htold⟩ := hfinal (hvfinal.symm.trans h)
    exact ⟨hcomplete, htold.append more⟩

/-- Final tasks do not decide what becomes of an utterance. -/
theorem Fate.task (h : Fate utteranceId o heard forwarded told current) {f : UtteranceState → UtteranceState}
    (hf : ∀ u, f u = { u with finalTask := (f u).finalTask }) :
    Fate utteranceId (o.map f) heard forwarded told current := by
  cases h with
  | unheard hnot => exact .unheard hnot
  | @cancelled u _ _ _ _ hid hfinal hcancelled =>
    rw [Option.map_some, hf u]
    exact .cancelled hid hfinal hcancelled
  | @forwarded u _ _ _ hid hdrop hheard hinput hfinal hopen =>
    rw [Option.map_some, hf u]
    exact .forwarded hid hdrop hheard hinput hfinal hopen
  | @blocked u _ _ hid hdrop hinput hfinal hheard hnot =>
    rw [Option.map_some, hf u]
    exact .blocked hid hdrop hinput hfinal hheard hnot
  | @dropped u _ _ _ hid hdrop hfinal hheard htold hnot =>
    rw [Option.map_some, hf u]
    exact .dropped hid hdrop hfinal hheard htold hnot

/-- Another utterance becomes the current one, or none does. -/
theorem Fate.leave (h : Fate utteranceId o heard forwarded told current)
    (hfinal : current → ∀ u, o = some u → u.finalSent = true) :
    Fate utteranceId o heard forwarded told False := by
  cases h with
  | unheard hnot => exact .unheard id
  | cancelled hid hsent hcancelled => exact .cancelled hid hsent hcancelled
  | forwarded hid hdrop hheard hinput hdone hopen =>
    refine .forwarded hid hdrop hheard hinput hdone fun hnot => ?_
    rw [hfinal (hopen hnot) _ rfl] at hnot
    cases hnot
  | blocked hid hdrop hinput hsent hheard hnot => exact .blocked hid hdrop hinput hsent hheard id
  | dropped hid hdrop hsent hheard htold hnot => exact .dropped hid hdrop hsent hheard htold id

/-- A frame is blocked by another utterance. -/
theorem Fate.block (h : Fate utteranceId o heard forwarded told current) (hheard : ¬ Complete heard)
    (hother : ∀ u, o = some u → u.dropPending = false → u.finalSent = false → ¬ current)
    {frame : ProviderInputFrame} (hframe : frame.utteranceId = utteranceId) {u : UtteranceState}
    (hu : o.getD (.new frame.streamId frame.utteranceId true) = u) :
    Fate utteranceId
      (some { u with
        dropPending := true
        inputComplete := u.inputComplete || frame.endOfUtterance
        finalSent := u.finalSent || frame.endOfUtterance })
      (heard ++ [frame]) forwarded
      (told ++ if frame.endOfUtterance && !u.finalSent then OpenAISession.overflowBodies u frame.utteranceId
        else []) current := by
  -- an utterance nothing was heard of, and one whose frames were blocked so far
  have hblocked : ∀ {u : UtteranceState}, u.utteranceId = utteranceId → u.inputComplete = false →
      u.finalSent = false → ¬ current → Fate utteranceId
        (some { u with
          dropPending := true
          inputComplete := u.inputComplete || frame.endOfUtterance
          finalSent := u.finalSent || frame.endOfUtterance })
        (heard ++ [frame]) []
        ([] ++ if frame.endOfUtterance && !u.finalSent then OpenAISession.overflowBodies u frame.utteranceId
          else []) current := by
    intro u hid hinput hfinal hnot
    by_cases hend : frame.endOfUtterance = true
    · rw [hinput, hfinal, hend, hframe]
      exact .dropped hid rfl rfl (complete_last heard hend) ⟨u.streamId, rfl⟩ hnot
    · rw [Bool.not_eq_true] at hend
      rw [hinput, hfinal, hend]
      exact .blocked hid rfl rfl rfl (incomplete_append hheard hend) hnot
  cases h with
  | unheard hnot =>
    subst hu
    exact hblocked hframe rfl rfl hnot
  | cancelled hid hfinal hcancelled =>
    subst hu
    exact .cancelled hid (by simp [hfinal]) (hcancelled.append _)
  | @forwarded v _ _ _ hid hdrop hsome hinput hfinal hopen =>
    cases hsent : v.finalSent with
    | true => exact absurd (hfinal hsent).1 hheard
    | false => exact absurd (hopen hsent) (hother v rfl hdrop hsent)
  | blocked hid hdrop hinput hfinal _ hnot =>
    subst hu
    exact hblocked hid hinput hfinal hnot
  | dropped hid hdrop hfinal hcomplete => exact absurd hcomplete hheard

/-- A frame is forwarded. -/
theorem Fate.forward (h : Fate utteranceId o heard forwarded told current) (hheard : ¬ Complete heard)
    (hpending : ∀ u, o = some u → u.dropPending = true → u.finalSent = true)
    {frame : ProviderInputFrame} (hframe : frame.utteranceId = utteranceId) :
    Fate utteranceId (some (o.getD (.new frame.streamId frame.utteranceId false))) (heard ++ [frame])
      (forwarded ++ [frame]) told True := by
  cases h with
  | unheard hnot =>
    exact .forwarded hframe rfl (by simp) (fun h => (nomatch h)) (fun h => (nomatch h)) fun _ => trivial
  | cancelled hid hfinal hcancelled => exact .cancelled hid hfinal hcancelled
  | forwarded hid hdrop hsome hinput hfinal hopen =>
    exact .forwarded hid hdrop (by simp) (fun h => (hinput h).append _)
      (fun h => ⟨(hfinal h).1.append _, (hfinal h).2⟩) fun _ => trivial
  | blocked hid hdrop hinput hfinal _ hnot =>
    have := hpending _ rfl hdrop
    rw [hfinal] at this
    cases this
  | dropped hid hdrop hfinal hcomplete => exact absurd hcomplete hheard

/-- The input of the current utterance is complete. -/
theorem Fate.input (h : Fate utteranceId (some u) heard forwarded told current) (hcurrent : current)
    (hheard : Complete heard) (n : Nat) (more : List Body) :
    Fate utteranceId
      (some (UtteranceState.scheduled n (UtteranceState.flushed { u with inputComplete := true })))
      heard forwarded (told ++ more) current := by
  refine Fate.task (o := some _) ?_ fun v => ?_
  · cases h with
    | cancelled hid hfinal hcancelled => exact .cancelled hid hfinal (hcancelled.append more)
    | forwarded hid hdrop hsome hinput hfinal hopen =>
      exact .forwarded hid hdrop hsome (fun _ => hheard) (fun h => ⟨hheard, (hfinal h).2.append more⟩) hopen
    | blocked _ _ _ _ _ hnot | dropped _ _ _ _ _ hnot => exact absurd hcurrent hnot
  · rw [UtteranceState.scheduled]
    split <;> rfl

/-- The utterance has its final: it was cancelled, or it had all its input. -/
theorem Fate.final (h : Fate utteranceId (some u) heard forwarded told current) (hopen : u.finalSent = false)
    {outcome : UtteranceOutcome} (hdone : outcome = .cancelled ∨ u.inputComplete = true) (streamId : Uuid)
    (last : Option Nat) :
    Fate utteranceId (some { u with finalTask := none, finalSent := true }) heard forwarded
      (told ++ [.utteranceFinal streamId utteranceId last outcome]) False := by
  have hcancelled : outcome = .cancelled → Cancelled (told ++ [.utteranceFinal streamId utteranceId last outcome]) :=
    fun h => ⟨_, List.mem_append_right _ (List.mem_singleton_self _), by rw [h]; rfl⟩
  cases h with
  | cancelled hid hfinal =>
    rw [hopen] at hfinal
    cases hfinal
  | forwarded hid hdrop hsome hinput hfinal =>
    rcases hdone with rfl | hinputted
    · exact .cancelled hid rfl (hcancelled rfl)
    · exact .forwarded hid hdrop hsome hinput
        (fun _ => ⟨hinput hinputted, _, List.mem_append_right _ (List.mem_singleton_self _), rfl⟩)
        fun h => (nomatch h)
  | blocked hid hdrop hinput =>
    rcases hdone with rfl | hinputted
    · exact .cancelled hid rfl (hcancelled rfl)
    · rw [hinput] at hinputted
      cases hinputted
  | dropped hid hdrop hfinal =>
    rw [hopen] at hfinal
    cases hfinal

end Rules

/-! ### What keeps the fates -/

section Moves

variable {s s' : OpenAISession}

theorem Fate.iff {utteranceId : Uuid} {o : Option UtteranceState} {heard forwarded : List ProviderInputFrame}
    {told : List Body} {current current' : Prop} (h : Fate utteranceId o heard forwarded told current)
    (hcurrent : current ↔ current') : Fate utteranceId o heard forwarded told current' :=
  propext hcurrent ▸ h

/-- Every utterance that has a state is known by its own id. -/
theorem Fate.keyed {utteranceId : Uuid} {u : UtteranceState} {heard forwarded : List ProviderInputFrame}
    {told : List Body} {current : Prop} (h : Fate utteranceId (some u) heard forwarded told current) :
    u.utteranceId = utteranceId := by
  cases h <;> assumption

/-- The current utterance is not to be dropped while it has no final. -/
theorem Fate.current_kept {utteranceId : Uuid} {u : UtteranceState} {heard forwarded : List ProviderInputFrame}
    {told : List Body} {current : Prop} (h : Fate utteranceId (some u) heard forwarded told current)
    (hcurrent : current) (hfinal : u.finalSent ≠ true) : u.dropPending = false := by
  cases h with
  | cancelled hid hsent => exact absurd hsent hfinal
  | forwarded hid hdrop => exact hdrop
  | blocked _ _ _ _ _ hnot | dropped _ _ _ _ _ hnot => exact absurd hcurrent hnot

theorem blocks_other {utteranceId : Uuid} (hblocks : s.blocks utteranceId = true) {u : UtteranceState}
    (hu : s.utterance utteranceId = some u) (hid : u.utteranceId = utteranceId)
    (hdrop : u.dropPending = false) (hfinal : u.finalSent = false) :
    s.currentUtteranceId ≠ some utteranceId := by
  intro hcurrent
  have hactive : s.activeOutputUtterance = some u := by
    rw [OpenAISession.activeOutputUtterance, hcurrent]
    dsimp only
    rw [hu]
    dsimp only
    rw [hfinal, hdrop]
    rfl
  rw [OpenAISession.blocks, hactive] at hblocks
  exact of_decide_eq_true hblocks hid.symm

/-- Where an utterance is not blocked, the current one is itself or has had its final. -/
theorem Fates.unblocked (h : Fates s) {utteranceId : Uuid} (hblocks : s.blocks utteranceId = false)
    {other : Uuid} (hother : other ≠ utteranceId) (hcurrent : s.currentUtteranceId = some other) :
    ∀ u, s.utterance other = some u → u.finalSent = true := by
  intro u hu
  by_contra hnot
  have hfate := h.2 other
  rw [hu] at hfate
  have hdrop := hfate.current_kept hcurrent hnot
  have hactive : s.activeOutputUtterance = some u := by
    rw [OpenAISession.activeOutputUtterance, hcurrent]
    dsimp only
    rw [hu]
    dsimp only
    rw [Bool.eq_false_iff.mpr hnot, hdrop]
    rfl
  rw [OpenAISession.blocks, hactive] at hblocks
  simp only [ne_eq, decide_not, Bool.not_eq_false', decide_eq_true_eq] at hblocks
  exact hother (hfate.keyed.symm.trans hblocks.symm)

theorem Fates.quiet (h : Fates s) {bodies : List Body} (hpublished : s'.published = s.published ++ bodies)
    (hnamed : ∀ body ∈ bodies, body.utterance? = none) (hheard : s'.heard = s.heard)
    (hforwarded : s'.forwarded = s.forwarded) (hcurrent : s'.currentUtteranceId = s.currentUtteranceId)
    {f : UtteranceState → UtteranceState} (hf : ∀ u, f u = { u with finalTask := (f u).finalTask })
    (hutterance : ∀ other, s'.utterance other = (s.utterance other).map f) : Fates s' := by
  refine ⟨hheard ▸ h.1, fun other => ?_⟩
  have hnone : eventsOf other bodies = [] := eventsOf_none fun body hbody h => by
    rw [hnamed body hbody] at h
    cases h
  rw [hpublished, eventsOf_append, hnone, List.append_nil, hheard, hforwarded, hcurrent, hutterance]
  exact (h.2 other).task hf

theorem Fates.close (h : Fates s) (reason : SessionCloseReason) : Fates (s.close reason) := by
  unfold OpenAISession.close
  split
  · exact h
  · exact h.quiet (OpenAISession.published_publish _ _) (by simp [Body.utterance?]) rfl rfl rfl
      (f := fun u => { u with finalTask := none }) (fun _ => rfl) fun other => Table.lookup_mapVals _ _ _

theorem Fates.providerError (h : Fates s) : Fates s.providerError :=
  h.quiet (OpenAISession.published_publish s _) (by simp [Body.utterance?]) rfl rfl rfl (f := id)
    (fun _ => rfl) fun _ => (Option.map_id_fun ▸ rfl)

/-- What concerns one utterance leaves the others as they are. -/
theorem Fates.change (h : Fates s) (utteranceId : Uuid) {bodies : List Body}
    (hpublished : s'.published = s.published ++ bodies)
    (hnamed : ∀ body ∈ bodies, body.utterance? = some utteranceId) (hheard : s'.heard = s.heard)
    (hforwarded : s'.forwarded = s.forwarded)
    (hcurrent : ∀ other, other ≠ utteranceId →
      (s'.currentUtteranceId = some other ↔ s.currentUtteranceId = some other))
    (hothers : ∀ other, other ≠ utteranceId → s'.utterance other = s.utterance other)
    (hfate : Fate utteranceId (s'.utterance utteranceId) (framesOf utteranceId s.heard)
      (framesOf utteranceId (s.forwarded.map Forwarded.frame)) (eventsOf utteranceId s.published ++ bodies)
      (s'.currentUtteranceId = some utteranceId)) : Fates s' := by
  refine ⟨hheard ▸ h.1, fun other => ?_⟩
  rw [hpublished, eventsOf_append, hheard, hforwarded]
  by_cases hother : other = utteranceId
  · rw [hother, eventsOf_all hnamed]
    exact hfate
  · rw [eventsOf_none fun body hbody h => hother (Option.some.inj (h.symm.trans (hnamed body hbody))),
      List.append_nil, hothers other hother]
    exact (h.2 other).iff (hcurrent other hother).symm

theorem Fates.drop (h : Fates s) {frame : ProviderInputFrame} (hfollows : follows s.heard frame = true)
    (hblocks : s.blocks frame.utteranceId = true) : Fates (s.drop frame) := by
  obtain ⟨u, hu⟩ : ∃ u, (s.utterance frame.utteranceId).getD
    (.new frame.streamId frame.utteranceId true) = u := ⟨_, rfl⟩
  obtain ⟨hpublished, hutterance⟩ := OpenAISession.drop_effect hu
  have huntouched := s.drop_untouched frame
  have hheard : (s.drop frame).heard = s.heard ++ [frame] := huntouched.heard
  have hforwarded : (s.drop frame).forwarded = s.forwarded := huntouched.forwarded
  have hcurrent : (s.drop frame).currentUtteranceId = s.currentUtteranceId := huntouched.currentUtteranceId
  have hnamed : ∀ body ∈ (if frame.endOfUtterance && !u.finalSent then
      OpenAISession.overflowBodies u frame.utteranceId else []), body.utterance? = some frame.utteranceId := by
    intro body hbody
    split at hbody
    · revert body
      simp [OpenAISession.overflowBodies, Body.utterance?]
    · cases hbody
  refine ⟨hheard ▸ h.1.append hfollows, fun other => ?_⟩
  rw [hpublished, eventsOf_append, hheard, hforwarded, hcurrent, hutterance]
  by_cases hother : other = frame.utteranceId
  · rw [hother, if_pos rfl, framesOf_append_self, eventsOf_all hnamed]
    refine (h.2 frame.utteranceId).block (h.1.incomplete hfollows) (fun v hv hdrop hfinal => ?_) rfl hu
    have hkeyed := h.2 frame.utteranceId
    rw [hv] at hkeyed
    exact blocks_other hblocks hv hkeyed.keyed hdrop hfinal
  · rw [if_neg hother, framesOf_append_other _ hother,
      eventsOf_none fun body hbody h => hother (Option.some.inj (h.symm.trans (hnamed body hbody))),
      List.append_nil]
    exact h.2 other

theorem Fates.send (h : Fates s) (codec : Codec) {frame : ProviderInputFrame}
    (hfollows : follows s.heard frame = true) (hblocks : s.blocks frame.utteranceId = false)
    (hpending : ∀ u, s.utterance frame.utteranceId = some u → u.dropPending = true → u.finalSent = true) :
    Fates (s.send codec frame) := by
  have hheard : (s.send codec frame).heard = s.heard ++ [frame] := rfl
  have hforwarded : (s.send codec frame).forwarded.map Forwarded.frame
      = s.forwarded.map Forwarded.frame ++ [frame] := List.map_append
  have hcurrent : (s.send codec frame).currentUtteranceId = some frame.utteranceId := rfl
  have hpublished : (s.send codec frame).published = s.published := rfl
  refine ⟨hheard ▸ h.1.append hfollows, fun other => ?_⟩
  rw [hpublished, hheard, hforwarded, hcurrent, OpenAISession.utterance_send]
  by_cases hother : other = frame.utteranceId
  · rw [hother, if_pos rfl, framesOf_append_self, framesOf_append_self]
    exact ((h.2 frame.utteranceId).forward (h.1.incomplete hfollows) hpending rfl).iff (by simp)
  · rw [if_neg hother, framesOf_append_other _ hother, framesOf_append_other _ hother]
    exact ((h.2 other).leave (h.unblocked hblocks hother)).iff
      ⟨False.elim, fun hsame => hother (Option.some.inj hsame).symm⟩

theorem Fates.finishInput (h : Fates s) {utteranceId : Uuid} {u : UtteranceState}
    (hu : s.utterance utteranceId = some u) (hnamed : ∀ audio ∈ u.pendingAudio, audio.utteranceId = utteranceId)
    (hcurrent : s.currentUtteranceId = some utteranceId) (hheard : Complete (framesOf utteranceId s.heard)) :
    Fates (s.finishInput utteranceId) := by
  obtain ⟨n, hpublished, huntouched, hutterance⟩ := OpenAISession.finishInput_effect hu
  have hfate := h.2 utteranceId
  rw [hu] at hfate
  refine h.change utteranceId hpublished (fun body hbody => ?_) huntouched.heard huntouched.forwarded
    (fun other _ => by rw [huntouched.currentUtteranceId])
    (fun other hother => by rw [hutterance, if_neg hother]) ?_
  · obtain ⟨audio, haudio, rfl⟩ := List.mem_map.mp hbody
    exact congrArg some (hnamed audio haudio)
  · rw [hutterance, if_pos rfl, huntouched.currentUtteranceId]
    exact hfate.input hcurrent hheard n _

theorem Fates.finish (h : Fates s) {utteranceId : Uuid} {u : UtteranceState}
    (hu : s.utterance utteranceId = some u) (hopen : u.finalSent = false) {outcome : UtteranceOutcome}
    (hdone : outcome = .cancelled ∨ u.inputComplete = true) : Fates (s.finish u utteranceId outcome) := by
  have hfate := h.2 utteranceId
  rw [hu] at hfate
  obtain ⟨-, hforwarded, hheard, -, -, hcurrent⟩ := s.finish_keeps u utteranceId outcome
  refine h.change utteranceId (s.published_finish u utteranceId outcome) (by simp [Body.utterance?]) hheard
    hforwarded (fun other hother => ?_) (fun other hother => ?_) ?_
  · rw [hcurrent]
    split
    next hsame =>
      rw [hsame]
      exact ⟨fun h => (nomatch h), fun h => absurd (Option.some.inj h).symm hother⟩
    next => rfl
  · rw [OpenAISession.utterance_finish, if_neg hother]
  · rw [OpenAISession.utterance_finish, if_pos rfl, hu, hcurrent, Option.map_some]
    refine (hfate.final hopen hdone u.streamId u.lastAudioSequence).iff ?_
    split
    next => exact ⟨False.elim, fun h => (nomatch h)⟩
    next hne => exact ⟨False.elim, hne⟩

/-- What an event tells is told of the current utterance. -/
theorem Fates.takeEvent (h : Fates s) {codec : Codec} {streamId utteranceId : Uuid}
    {items : List ProviderEvent} {a : OpenAIRealtimeAdapter} (hmapped : s.adapter.Mapped utteranceId items a)
    (hcurrent : s.currentUtteranceId = some utteranceId) :
    Fates (OpenAISession.takeEvent { s with adapter := a } codec streamId utteranceId items) := by
  have huntouched := OpenAISession.takeEvent_untouched { s with adapter := a } codec streamId utteranceId items
  obtain ⟨u, hknown, htell⟩ := (h.2 utteranceId).tell hcurrent
  -- whatever is told, and whatever becomes of audio and final task
  have htold : ∀ {bodies : List Body} {v : UtteranceState},
      (OpenAISession.takeEvent { s with adapter := a } codec streamId utteranceId items).published
        = s.published ++ bodies → (∀ body ∈ bodies, body.utterance? = some utteranceId) →
      (∀ other, (OpenAISession.takeEvent { s with adapter := a } codec streamId utteranceId items).utterance other
        = if other = utteranceId then some v else s.utterance other) →
      v.utteranceId = u.utteranceId → v.dropPending = u.dropPending → v.inputComplete = u.inputComplete →
      v.finalSent = u.finalSent →
      Fates (OpenAISession.takeEvent { s with adapter := a } codec streamId utteranceId items) := by
    intro bodies v hpublished hnamed hutterance hid hdrop hinput hfinal
    refine h.change utteranceId hpublished hnamed huntouched.heard huntouched.forwarded
      (fun other _ => by rw [huntouched.currentUtteranceId])
      (fun other hother => by rw [hutterance, if_neg hother]) ?_
    rw [hutterance, if_pos rfl, huntouched.currentUtteranceId]
    exact htell v hid hdrop hinput hfinal bodies
  by_cases hfinal : u.finalSent = true
  · obtain ⟨hpublished, hutterance⟩ := OpenAISession.takeEvent_final (s := { s with adapter := a })
      codec streamId items hknown hfinal
    refine htold (hpublished.trans (List.append_nil _).symm) (by simp) (fun other => ?_) rfl rfl rfl rfl
    rw [hutterance]
    split
    next hother => rw [hother]; exact hknown
    next => rfl
  rw [Bool.not_eq_true] at hfinal
  have hopen : ({ s with adapter := a } : OpenAISession).utterance utteranceId = some u := hknown
  obtain ⟨f, hf, hpublished, hutterance⟩ := OpenAISession.takeEvent_open (s := { s with adapter := a })
    codec items (by rw [hopen]; rfl) hfinal
  have hkept : ∀ v : UtteranceState, (f v).utteranceId = v.utteranceId ∧ (f v).dropPending = v.dropPending
      ∧ (f v).inputComplete = v.inputComplete ∧ (f v).finalSent = v.finalSent := by
    rcases hf with rfl | ⟨n, rfl⟩
    · exact fun v => ⟨rfl, rfl, rfl, rfl⟩
    · intro v
      rw [UtteranceState.scheduled]
      split <;> exact ⟨rfl, rfl, rfl, rfl⟩
  refine htold hpublished (fun body hbody => ?_) hutterance ?_ ?_ ?_ ?_
  · split at hbody
    · exact ((OpenAISession.told_mapped codec hmapped).1 body hbody).1
    · exact (OpenAISession.toldEarly_mapped hmapped body hbody).1
  · exact (hkept _).1.trans (by split <;> rfl)
  · exact (hkept _).2.1.trans (by split <;> rfl)
  · exact (hkept _).2.2.1.trans (by split <;> rfl)
  · exact (hkept _).2.2.2.trans (by split <;> rfl)

theorem Fates.message (h : Fates s) (codec : Codec) (event : List (PyStr × Json)) (nowNs : Nat) :
    Fates (s.message codec event nowNs).2 := by
  unfold OpenAISession.message
  split
  · exact Fates.close (s := s.markEnding) h _
  split
  · exact h.providerError
  rcases s.realtimeEvent_cases codec event nowNs with
    ⟨a, -, hafter⟩ | ⟨streamId, utteranceId, items, a, -, hcurrent, -, hmapped, hafter⟩
  · rw [hafter]
    exact h
  · rw [hafter]
    exact h.takeEvent (OpenAIRealtimeAdapter.mapRealtimeEvents_mapped hmapped) hcurrent

end Moves

/-! ### Every run -/

/-- The calls that keep utterances apart: the frames come one utterance after another, those of an utterance
    that is to be dropped find it blocked still, and a final task that has a final to publish finds the
    transport drained. -/
def separate (call : Call) (w : World) : Bool :=
  match call with
  | .submitFrame frame =>
    (w.session.validateFrame frame).isSome
      || (follows w.session.heard frame
        && match w.session.utterance frame.utteranceId with
          | none => true
          | some u => !u.dropPending || u.finalSent || w.session.blocks frame.utteranceId)
  | .delayedFinal _ task => unhindered task w
  | _ => true

/-- All frames of the utterance that were heard were forwarded, in order. -/
def Kept (s : OpenAISession) (utteranceId : Uuid) : Prop :=
  framesOf utteranceId (s.forwarded.map Forwarded.frame) = framesOf utteranceId s.heard

theorem Fate.whole {utteranceId : Uuid} {o : Option UtteranceState} {heard forwarded : List ProviderInputFrame}
    {told : List Body} {current : Prop} (h : Fate utteranceId o heard forwarded told current)
    (hnot : ¬ Cancelled told) : forwarded = heard ∨ forwarded = []
      ∧ (Complete heard → ToldDropped utteranceId told) ∧ (¬ Complete heard → told = []) := by
  cases h with
  | unheard => exact .inl rfl
  | cancelled _ _ hcancelled => exact absurd hcancelled hnot
  | forwarded => exact .inl rfl
  | blocked _ _ _ _ hheard => exact .inr ⟨rfl, fun h => absurd h hheard, fun _ => rfl⟩
  | dropped _ _ _ hheard htold => exact .inr ⟨rfl, fun _ => htold, fun h => absurd hheard h⟩

theorem Fate.settled {utteranceId : Uuid} {o : Option UtteranceState} {heard forwarded : List ProviderInputFrame}
    {told : List Body} {current : Prop} (h : Fate utteranceId o heard forwarded told current)
    (hnot : ¬ current) (hsome : forwarded ≠ []) : HasFinal told := by
  cases h with
  | unheard | blocked | dropped => exact absurd rfl hsome
  | cancelled _ _ hcancelled => exact hcancelled.hasFinal
  | @forwarded u _ _ _ _ _ _ _ hfinal hopen =>
    cases hsent : u.finalSent with
    | true => exact (hfinal hsent).2
    | false => exact absurd (hopen hsent) hnot

end Translator.Realtime
