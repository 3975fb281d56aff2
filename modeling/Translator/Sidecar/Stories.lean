import Translator.Sidecar.Telling

/-! The story of a session: the publications on its wire and those that may still come there. While
    the session is open, what a call or a pipeline adds to the story may follow it, and what is purged
    leaves a story that may be told. -/

namespace Translator.Sidecar
open Schemes
open Wire (Uuid)

/-! ### What was told and what is to be told -/

namespace PublicationQueue

/-- The publications on the wire. -/
def told (q : PublicationQueue) : List Publication := q.sent.map fun entry => entry.1.publication

/-- The publications that may still come there. -/
def unsent (q : PublicationQueue) : List Publication :=
  (q.waiting ++ q.pendingPublications).map Queued.publication

end PublicationQueue

variable {q : PublicationQueue} {request : OpenProviderSession} {stream id : Uuid}
variable {told l : List Publication} {p : Publication}

theorem purge_told (q : PublicationQueue) (hit : Publication → Bool) :
    (q.purge hit).told = q.told := by
  rw [PublicationQueue.told, Session.purge_sent, PublicationQueue.told]

theorem purge_unsent (h : Flight q) (hit : Publication → Bool) :
    (q.purge hit).unsent = q.unsent.filter fun p => !hit p := by
  have hmap (pending : List Queued) :
      (pending.filter fun queued => !hit queued.publication).map Queued.publication
        = (pending.map Queued.publication).filter fun p => !hit p := by
    rw [List.filter_map]
    rfl
  rcases h with ⟨hq, ht, -⟩ | ⟨queued, batch, state, hq, ht, -, -, -, -, -⟩
  · simp [PublicationQueue.purge, PublicationQueue.cancelInFlight, PublicationQueue.retain,
      PublicationQueue.unsent, PublicationQueue.waiting, hq, ht, hmap]
  · cases hhit : hit queued.publication <;> cases state <;>
      simp [PublicationQueue.purge, PublicationQueue.cancelInFlight, PublicationQueue.retain,
        PublicationQueue.unsent, PublicationQueue.waiting, PublishState.done, hq, ht, hmap, hhit]

theorem atEach_before {E : Type*} {P : List E → E → Prop} {l m : List E} (h : AtEach P (l ++ m)) :
    AtEach P l := by
  intro pre a post heq
  exact h pre a (post ++ m) (by rw [heq, List.append_assoc]; rfl)

theorem framesOf_filter {keep : Publication → Bool}
    (h : ∀ p ∈ l, (p.sequenceOf id).isSome → keep p = true) :
    framesOf id (l.filter keep) = framesOf id l := by
  rw [framesOf, framesOf, List.countP_filter]
  refine List.countP_congr fun p hp => ?_
  constructor
  · intro hboth
    exact (Bool.and_eq_true_iff.mp hboth).1
  · intro hframe
    exact Bool.and_eq_true_iff.mpr ⟨hframe, h p hp hframe⟩

theorem framesOf_append (id : Uuid) (told more : List Publication) :
    framesOf id (told ++ more) = framesOf id told + framesOf id more := List.countP_append

/-- What may follow some publications may follow fewer of them, when no frame of its is missing. -/
theorem Tells.thin {pre pre' : List Publication} (h : Tells request stream pre p)
    (hsub : pre'.Sublist pre)
    (hframes : ∀ u sequence pcm, p = .audio u sequence pcm →
      framesOf u.utteranceId pre' = framesOf u.utteranceId pre) : Tells request stream pre' p where
  unclosed hmem := h.unclosed (hsub.subset hmem)
  own u hu := by
    obtain ⟨hstream, hlive⟩ := h.own u hu
    refine ⟨hstream, fun hmem => hlive ?_⟩
    exact List.mem_toFinset.mpr ((hsub.filterMap _).subset (List.mem_toFinset.mp hmem))
  room u hu := by
    refine Nat.lt_of_le_of_lt (Finset.card_le_card fun x hx => ?_) (h.room u hu)
    exact List.mem_toFinset.mpr ((hsub.filterMap _).subset (List.mem_toFinset.mp hx))
  debug := h.debug
  frame u sequence pcm hp := by
    rw [hframes u sequence pcm hp]
    exact h.frame u sequence pcm hp
  silent u asrMs mtMs ttsMs hp := by
    obtain ⟨hasr, hmt, htts, hzero⟩ := h.silent u asrMs mtMs ttsMs hp
    refine ⟨hasr, hmt, htts, Nat.le_zero.mp (hzero ▸ ?_)⟩
    exact hsub.countP_le

/-- Some of what is to be told is left out: with a frame all frames of its utterance. -/
theorem tells_filter {keep : Publication → Bool} (h : AtEach (Tells request stream) (told ++ l))
    (hkeep : ∀ u sequence pcm, keep (.audio u sequence pcm) = true → ∀ q : Publication,
      (q.sequenceOf u.utteranceId).isSome → keep q = true) :
    AtEach (Tells request stream) (told ++ l.filter keep) := by
  induction l using List.reverseRecOn with
  | nil => exact h
  | append_singleton l p ih =>
    have hp := h (told ++ l) p [] (by simp)
    rw [← List.append_assoc] at h
    have hrest := ih (atEach_before h)
    rw [List.filter_append]
    cases hkept : keep p with
    | false => simpa [hkept] using hrest
    | true =>
      simp only [List.filter_cons, hkept, if_true, List.filter_nil]
      rw [← List.append_assoc]
      refine atEach_concat hrest (hp.thin ?_ ?_)
      · exact (List.Sublist.refl _).append List.filter_sublist
      · rintro u sequence pcm rfl
        rw [framesOf_append, framesOf_append,
          framesOf_filter fun q _ => hkeep u sequence pcm hkept q]

/-! ### The session -/

/-- The frames of speech that are queued or published. -/
def Stage.frames : Stage → Nat
  | .speaking _ _ _ frames | .offering _ _ _ frames _ => frames
  | _ => 0

/-- A frame that waits for room has the length of a frame. -/
def Stage.Fits (format : PcmFormat) : Stage → Prop
  | .offering _ _ _ _ pcm => pcm.length = Session.expectedBytes format
  | _ => True

namespace Session

/-- The publications on the wire and those that may still come there. -/
def story (s : Session) : List Publication := s.told ++ s.unsent

/-- What is known of an utterance, but for one that is about to end: its pipeline counts the frames
    of the story. -/
structure Open (stream : Uuid) (but : Option Uuid) (story : List Publication) (s : Session) :
    Prop where
  unclosed : Publication.session ∉ story
  own : ∀ id u, s.utterances.lookup id = some u → u.streamId = stream
  fits : ∀ id u, s.utterances.lookup id = some u → u.stage.Fits s.request.requestedOutputFormat
  frames : ∀ id u, s.utterances.lookup id = some u → some id ≠ but →
    u.stage = .abandoned ∨ framesOf id story = u.stage.frames
  spoken : ∀ id, framesOf id story ≠ 0 → id ∈ s.utterances ∨ id ∈ s.terminalIds
  debug : s.debugTextEnabled = true → s.request.debugTextEnabled = true
  collecting : ∀ id u, s.collectingId = some id → s.utterances.lookup id = some u →
    u.stage = .collecting

/-- Every publication of the story may come where it stands. -/
structure Alive (stream : Uuid) (s : Session) : Prop where
  tells : AtEach (Tells s.request stream) s.story
  table : ∀ id n, s.lastAudioSequence.lookup id = n → n = lastFrame (framesOf id s.told)
  going : s.closed = false → Open stream none s.story s

variable {s t : Session} {but : Option Uuid} {story : List Publication}

/-- A session that is closed tells what it has told, and of the rest nothing. -/
theorem Alive.shut (h : Alive stream s) (hflight : Flight s.toPublicationQueue)
    (hrequest : t.request = s.request) (htold : t.told = s.told)
    (hunsent : t.unsent = (s.purge fun _ => true).unsent)
    (htable : t.lastAudioSequence = s.lastAudioSequence) (hclosed : t.closed = true) :
    Alive stream t where
  tells := by
    have hnone : t.unsent = [] := by
      rw [hunsent, purge_unsent hflight]
      simp
    rw [Session.story, htold, hnone, List.append_nil, hrequest]
    exact atEach_before h.tells
  table := by
    rw [htable, htold]
    exact h.table
  going hopen := by
    rw [hclosed] at hopen
    cases hopen

theorem purge_table (q : PublicationQueue) (hit : Publication → Bool) :
    (q.purge hit).lastAudioSequence = q.lastAudioSequence := by
  unfold PublicationQueue.purge PublicationQueue.cancelInFlight
  split
  · split <;> rfl
  · rfl

theorem Alive.failSession (h : Alive stream s) (hflight : Flight s.toPublicationQueue)
    (error : Option PublicationError) : Alive stream (s.failSession error) :=
  h.shut hflight rfl (purge_told _ _) rfl (purge_table _ _) rfl

/-- A publication that may follow joins the story. -/
theorem alive_append (hflight : Flight s.toPublicationQueue)
    (htells : AtEach (Tells s.request stream) s.story)
    (htable : ∀ id n, s.lastAudioSequence.lookup id = n → n = lastFrame (framesOf id s.told))
    (hp : Tells s.request stream s.story p)
    (hopen : s.closed = false → Open stream none (s.story ++ [p]) s) :
    Alive stream (s.append p) := by
  unfold Session.append
  split
  · refine ⟨?_, ?_, fun h => by cases h⟩
    · have hnone : (s.purge fun _ => true).unsent = [] := by
        rw [purge_unsent hflight]
        simp
      have hunsent : (s.failSession (some .capacityReached)).unsent = [] := hnone
      rw [Session.story, hunsent, List.append_nil]
      exact (purge_told s.toPublicationQueue _).symm ▸ atEach_before htells
    · intro x n hn
      have hsame := htable x n ((purge_table s.toPublicationQueue fun _ => true) ▸ hn)
      rw [hsame]
      exact congrArg (fun told => lastFrame (framesOf x told)) (purge_told _ _).symm
  · have hstory : (s.onQueue fun q => q.push p (s.audioMs p)).story = s.story ++ [p] := by
      simp [Session.story, onQueue, PublicationQueue.told, PublicationQueue.unsent,
        PublicationQueue.push, PublicationQueue.waiting]
    constructor
    · rw [hstory]
      exact atEach_concat htells hp
    · exact htable
    · rw [hstory]
      intro hclosed
      obtain ⟨h₁, h₂, h₃, h₄, h₅, h₆, h₇⟩ := hopen hclosed
      exact ⟨h₁, h₂, h₃, h₄, h₅, h₆, h₇⟩

theorem story_publications (s : Session) : s.story = s.publications := by
  simp [Session.story, PublicationQueue.told, PublicationQueue.unsent,
    PublicationQueue.publications, PublicationQueue.line, Function.comp_def]

theorem terminated_known (h : Ending s) : terminated s.story ⊆ s.terminalIds := by
  intro x hx
  rw [story_publications] at hx
  obtain ⟨p, hp, hterminal⟩ := List.mem_filterMap.mp (List.mem_toFinset.mp hx)
  exact h.known p hp x hterminal

theorem framesOf_silent (hp : p.sequenceOf id = none) (told : List Publication) :
    framesOf id (told ++ [p]) = framesOf id told := by
  rw [framesOf_concat, hp]
  rfl

theorem sequenceOf_terminal (hp : p.terminalOf = some id) (x : Uuid) : p.sequenceOf x = none := by
  cases p <;> first | rfl | cases hp

/-- An utterance ends. -/
theorem alive_terminalize (hending : Ending s) (hflight : Flight s.toPublicationQueue)
    (htells : AtEach (Tells s.request stream) s.story)
    (htable : ∀ id n, s.lastAudioSequence.lookup id = n → n = lastFrame (framesOf id s.told))
    (hopen : Open stream (some id) s.story s) (hid : id ∉ s.terminalIds)
    (hterminal : p.terminalOf = some id)
    (hown : ∀ u, p.utterance? = some u → u.streamId = stream)
    (hsilent : ∀ u asrMs mtMs ttsMs, p = .dropped u .noSpeech asrMs mtMs ttsMs →
      asrMs.isSome ∧ mtMs = none ∧ ttsMs = none ∧ framesOf u.utteranceId s.story = 0) :
    Alive stream (s.terminalize id p).2 := by
  unfold Session.terminalize
  split
  · have h : Alive stream { s with closed := true } :=
      ⟨htells, htable, fun h => by cases h⟩
    exact Alive.shut h hflight rfl (purge_told _ _) rfl (purge_table _ _) rfl
  next hroom =>
    refine alive_append (s := s.retire id) hflight htells htable ?_ fun _ => ?_
    · have hknown := terminated_known hending
      refine ⟨hopen.unclosed, fun u hu => ⟨hown u hu, ?_⟩, fun u _ => ?_, ?_, ?_, hsilent⟩
      · have hsame : u.utteranceId = id := by
          cases p <;> cases hterminal <;> cases hu <;> rfl
        rw [hsame]
        exact fun hmem => hid (hknown hmem)
      · have hcard := Finset.card_le_card hknown
        have hlt : s.terminalIds.card < maxTerminalIds := by
          rw [not_and, Nat.not_le] at hroom
          exact hroom hid
        exact Nat.lt_of_le_of_lt hcard hlt
      · intro hdebug
        cases p <;> simp_all [Publication.isDebug, Publication.terminalOf]
      · rintro u sequence pcm rfl
        cases hterminal
    · have hframes (x : Uuid) : framesOf x ((s.retire id).story ++ [p]) = framesOf x s.story :=
        framesOf_silent (sequenceOf_terminal hterminal x) _
      have hlookup (x : Uuid) (u : Utterance)
          (h : (s.retire id).utterances.lookup x = some u) :
          x ≠ id ∧ s.utterances.lookup x = some u := by
        simp only [Session.retire, Table.lookup_erase_if] at h
        split at h
        · cases h
        next hne => exact ⟨hne, h⟩
      constructor
      · intro hmem
        rcases List.mem_append.mp hmem with hold | hnew
        · exact hopen.unclosed hold
        · rw [← List.mem_singleton.mp hnew] at hterminal
          cases hterminal
      · exact fun x u hu => hopen.own x u (hlookup x u hu).2
      · exact fun x u hu => hopen.fits x u (hlookup x u hu).2
      · intro x u hu _
        obtain ⟨hne, hu⟩ := hlookup x u hu
        rw [hframes]
        exact hopen.frames x u hu fun h => hne (Option.some.inj h)
      · intro x hx
        rw [hframes] at hx
        by_cases hxid : x = id
        · exact .inr (hxid ▸ Finset.mem_insert_self _ _)
        rcases hopen.spoken x hx with hold | hold
        · exact .inl (AList.mem_erase.mpr ⟨hxid, hold⟩)
        · exact .inr (Finset.mem_insert_of_mem hold)
      · exact hopen.debug
      · exact fun x u hx hu => hopen.collecting x u hx (hlookup x u hu).2

theorem isOf_frame {u : UtteranceRef} {sequence : Nat} {pcm : List UInt8}
    (hkeep : (!Publication.isOf id (.audio u sequence pcm)) = true) (q : Publication)
    (hq : (q.sequenceOf u.utteranceId).isSome) : (!Publication.isOf id q) = true := by
  have hne : u.utteranceId ≠ id := by
    simpa [Publication.isOf, Publication.utterance?] using hkeep
  cases q with
  | audio v n pcm' =>
    have hv : v.utteranceId = u.utteranceId := by
      simp only [Publication.sequenceOf] at hq
      split at hq
      next h => exact h
      next => cases hq
    simpa [Publication.isOf, Publication.utterance?, hv] using hne
  | _ => cases hq

theorem framesOf_purged {x : Uuid} (hne : x ≠ id) (told l : List Publication) :
    framesOf x (told ++ l.filter fun p => !Publication.isOf id p) = framesOf x (told ++ l) := by
  rw [framesOf_append, framesOf_append, framesOf_filter]
  intro q _ hq
  cases q with
  | audio v n pcm =>
    have hv : v.utteranceId = x := by
      simp only [Publication.sequenceOf] at hq
      split at hq
      next h => exact h
      next => cases hq
    simpa [Publication.isOf, Publication.utterance?, hv] using hne
  | _ => cases hq

theorem framesOf_purged_le (x : Uuid) (told l : List Publication) (keep : Publication → Bool) :
    framesOf x (told ++ l.filter keep) ≤ framesOf x (told ++ l) :=
  List.Sublist.countP_le ((List.Sublist.refl _).append List.filter_sublist)

/-- An utterance ends, and what it has in the queue is purged. -/
theorem Alive.purgeEnd (h : Alive stream s) (hending : Ending s)
    (hflight : Kept s.toPublicationQueue) (hclosed : s.closed = false) (hid : id ∉ s.terminalIds)
    (hterminal : p.terminalOf = some id)
    (hown : ∀ u, p.utterance? = some u → u.streamId = stream)
    (hsilent : ∀ u asrMs mtMs ttsMs, p = .dropped u .noSpeech asrMs mtMs ttsMs →
      asrMs.isSome ∧ mtMs = none ∧ ttsMs = none ∧ framesOf u.utteranceId s.story = 0) :
    Alive stream ((s.onQueue (·.purge (Publication.isOf id))).terminalize id p).2 := by
  have hopen := h.going hclosed
  have hstory : (s.onQueue (·.purge (Publication.isOf id))).story
      = s.told ++ s.unsent.filter fun p => !Publication.isOf id p := by
    rw [← purge_unsent hflight.flight, ← purge_told s.toPublicationQueue (Publication.isOf id)]
    rfl
  refine alive_terminalize (s := s.onQueue (·.purge (Publication.isOf id)))
    (hending.fewer ⟨purge_line _ _, rfl, fun _ hx => hx⟩) (hflight.purge _).flight ?_ ?_ ?_ hid
    hterminal hown ?_
  · rw [hstory]
    exact tells_filter h.tells fun u sequence pcm hkeep q hq => isOf_frame hkeep q hq
  · intro x n hn
    have hn : s.lastAudioSequence.lookup x = n := by
      rw [← hn]
      exact congrArg (AList.lookup x) (purge_table _ _).symm
    rw [h.table x n hn]
    exact congrArg (fun told => lastFrame (framesOf x told)) (purge_told _ _).symm
  · rw [hstory]
    refine ⟨fun hmem => ?_, hopen.own, hopen.fits, fun x u hu hx => ?_, fun x hx => ?_,
      hopen.debug, hopen.collecting⟩
    · exact hopen.unclosed (((List.Sublist.refl _).append List.filter_sublist).subset hmem)
    · rw [framesOf_purged fun hxid => hx (congrArg some hxid)]
      exact hopen.frames x u hu (by simp)
    · refine hopen.spoken x fun hzero => hx ?_
      exact Nat.le_zero.mp (hzero ▸ framesOf_purged_le x _ _ _)
  · intro u asrMs mtMs ttsMs hp
    obtain ⟨hasr, hmt, htts, hzero⟩ := hsilent u asrMs mtMs ttsMs hp
    rw [hstory]
    exact ⟨hasr, hmt, htts, Nat.le_zero.mp (hzero ▸ framesOf_purged_le _ _ _ _)⟩

theorem Alive.dropLocked (h : Alive stream s) (hending : Ending s)
    (hkept : Kept s.toPublicationQueue) (hclosed : s.closed = false) (hid : id ∉ s.terminalIds)
    {utterance : Utterance} (hstream : utterance.streamId = stream) {code : SafeErrorCode}
    {asrMs mtMs ttsMs : Option Nat} (hsilent : code = .noSpeech →
      asrMs.isSome ∧ mtMs = none ∧ ttsMs = none ∧ framesOf id s.story = 0) :
    Alive stream (s.dropLocked id utterance code asrMs mtMs ttsMs).2 := by
  refine h.purgeEnd hending hkept hclosed hid rfl (fun u hu => ?_) fun u a b c hp => ?_
  · cases hu
    exact hstream
  · cases hp
    exact hsilent rfl

theorem Open.congr (h : Open stream but story s) (hutterances : t.utterances = s.utterances)
    (hrequest : t.request = s.request) (hterminal : t.terminalIds = s.terminalIds)
    (hdebug : t.debugTextEnabled = true → s.debugTextEnabled = true)
    (hcollecting : ∀ id, t.collectingId = some id → s.collectingId = some id) :
    Open stream but story t where
  unclosed := h.unclosed
  own := by
    rw [hutterances]
    exact h.own
  fits := by
    rw [hutterances, hrequest]
    exact h.fits
  frames := by
    rw [hutterances]
    exact h.frames
  spoken := by
    rw [hutterances, hterminal]
    exact h.spoken
  debug hd := by
    rw [hrequest]
    exact h.debug (hdebug hd)
  collecting x u hx hu := h.collecting x u (hcollecting x hx) (hutterances ▸ hu)

theorem Alive.congr (h : Alive stream s)
    (hqueue : t.toPublicationQueue = s.toPublicationQueue) (hclosed : t.closed = s.closed)
    (hutterances : t.utterances = s.utterances) (hrequest : t.request = s.request)
    (hterminal : t.terminalIds = s.terminalIds)
    (hdebug : t.debugTextEnabled = s.debugTextEnabled)
    (hcollecting : ∀ id, t.collectingId = some id → s.collectingId = some id) :
    Alive stream t where
  tells := by
    rw [Session.story, hqueue, hrequest]
    exact h.tells
  table := by
    rw [hqueue]
    exact h.table
  going hc := by
    rw [Session.story, hqueue]
    exact (h.going (hclosed ▸ hc)).congr hutterances hrequest hterminal (hdebug ▸ id) hcollecting

/-- An utterance of the session goes on. -/
theorem Alive.set (h : Alive stream s) {utterance : Utterance}
    (hstream : utterance.streamId = stream)
    (hfits : utterance.stage.Fits s.request.requestedOutputFormat)
    (hframes : utterance.stage = .abandoned ∨ framesOf id s.story = utterance.stage.frames)
    (hcollecting : s.collectingId = some id → utterance.stage = .collecting) :
    Alive stream { s with utterances := s.utterances.insert id utterance } where
  tells := h.tells
  table := h.table
  going hclosed := by
    have hopen := h.going hclosed
    have hlookup (x : Uuid) (u : Utterance)
        (hu : (s.utterances.insert id utterance).lookup x = some u) :
        (x = id ∧ u = utterance) ∨ s.utterances.lookup x = some u := by
      rw [Table.lookup_insert_if] at hu
      split at hu
      next hx => exact .inl ⟨hx, (Option.some.inj hu).symm⟩
      next => exact .inr hu
    refine ⟨hopen.unclosed, ?_, ?_, ?_, fun x hx => ?_, hopen.debug, ?_⟩
    · intro x u hu
      rcases hlookup x u hu with ⟨rfl, rfl⟩ | hold
      · exact hstream
      · exact hopen.own x u hold
    · intro x u hu
      rcases hlookup x u hu with ⟨rfl, rfl⟩ | hold
      · exact hfits
      · exact hopen.fits x u hold
    · intro x u hu hbut
      rcases hlookup x u hu with ⟨rfl, rfl⟩ | hold
      · exact hframes
      · exact hopen.frames x u hold hbut
    · exact (hopen.spoken x hx).imp_left fun hold => (AList.mem_insert _).mpr (.inr hold)
    · intro x u hx hu
      rcases hlookup x u hu with ⟨rfl, rfl⟩ | hold
      · exact hcollecting hx
      · exact hopen.collecting x u hx hold

/-! ### Requests -/

theorem Alive.validateFrame (h : Alive stream s) (frame : ProviderInputFrame) :
    Alive stream (s.validateFrame frame).2 ∧ (s.validateFrame frame).2.closed = s.closed := by
  unfold Session.validateFrame
  dsimp only
  split_ifs <;> exact ⟨h.congr rfl rfl rfl rfl rfl rfl fun _ hx => hx, rfl⟩

/-- A frame that is taken belongs to an utterance that is still collecting. -/
theorem Alive.collectingUtterance (h : Alive stream s) (hkept : Kept s.toPublicationQueue)
    (hclosed : s.closed = false) {frame : ProviderInputFrame} (hstream : frame.streamId = stream) :
    Alive stream (s.collectingUtterance frame).2
      ∧ ∀ u, (s.collectingUtterance frame).1 = .ok u →
        (s.collectingUtterance frame).2.closed = false ∧ u.streamId = stream
          ∧ u.stage = .collecting
          ∧ framesOf frame.utteranceId (s.collectingUtterance frame).2.story = 0 := by
  have hopen := h.going hclosed
  unfold Session.collectingUtterance
  split
  · exact ⟨h, fun u hu => by cases hu⟩
  next hid =>
    split
    next hnone =>
      split
      · exact ⟨h, fun u hu => by cases hu⟩
      next hnew =>
        split
        · exact ⟨h.failSession hkept.flight none, fun u hu => by cases hu⟩
        · have hzero : framesOf frame.utteranceId s.story = 0 := by
            by_contra hne
            rcases hopen.spoken _ hne with hold | hold
            · exact hnew hold
            · exact hid hold
          have hset : Alive stream { s with
              utterances := s.utterances.insert frame.utteranceId
                ⟨frame.streamId, frame.captureMonotonicNs, false, 0, .collecting⟩ } :=
            h.set hstream trivial (.inr hzero) fun _ => rfl
          refine ⟨⟨hset.tells, fun x n hn => ?_, fun hc => ?_⟩, fun u hu => ?_⟩
          · rw [Table.lookup_erase_if] at hn
            split at hn
            next hx =>
              subst hx
              have htold : framesOf frame.utteranceId s.told = 0 :=
                Nat.le_zero.mp (hzero ▸ List.Sublist.countP_le (List.sublist_append_left _ _))
              rw [← hn, lastFrame, if_pos]
              exact htold
            next => exact h.table x n hn
          · obtain ⟨h₁, h₂, h₃, h₄, h₅, h₆, -⟩ := hset.going hc
            refine ⟨h₁, h₂, h₃, h₄, h₅, h₆, fun x u hx hu => ?_⟩
            cases hx
            simp only [Table.lookup_insert_if, if_true, Option.some.injEq] at hu
            rw [← hu]
          · cases hu
            exact ⟨hclosed, hstream, rfl, hzero⟩
    next id hcollecting =>
      split
      · exact ⟨h, fun u hu => by cases hu⟩
      next hsame =>
        rw [not_not] at hsame
        split
        next utterance hlookup =>
          refine ⟨h, fun u hu => ?_⟩
          cases hu
          rw [← hsame]
          have hstage := hopen.collecting id utterance hcollecting hlookup
          refine ⟨hclosed, hopen.own id utterance hlookup, hstage, ?_⟩
          rcases hopen.frames id utterance hlookup (by simp) with habandoned | hframes
          · rw [hstage] at habandoned
            cases habandoned
          · rw [hframes, hstage]
            rfl
        next => exact ⟨h, fun u hu => by cases hu⟩

theorem Alive.finishCollecting (h : Alive stream s) (hending : Ending s)
    (hkept : Kept s.toPublicationQueue) (hclosed : s.closed = false) (hid : id ∉ s.terminalIds)
    {utterance : Utterance} (hstream : utterance.streamId = stream)
    (hzero : framesOf id s.story = 0) (modelsAvailable : Bool) (admission : Admission) :
    Alive stream (s.finishCollecting id utterance modelsAvailable admission).2 := by
  have hset : Alive stream { s with collectingId := none } :=
    h.congr rfl rfl rfl rfl rfl rfl fun _ hx => by cases hx
  have hsetEnding : Ending { s with collectingId := none } :=
    hending.fewer ⟨.refl _, rfl, fun _ hx => hx⟩
  have hdrop (code : SafeErrorCode) (hcode : code ≠ .noSpeech) : Alive stream
      (Session.dropLocked { s with collectingId := none } id utterance code none none none).2 :=
    hset.dropLocked hsetEnding hkept hclosed hid hstream fun h => absurd h hcode
  unfold Session.finishCollecting
  dsimp only
  split
  · exact hdrop .modelNotLoaded (by simp)
  · cases admission with
    | accepted =>
      have hnext : Alive stream { s with
          collectingId := none
          utterances := s.utterances.insert id
            { utterance with bufferedMs := 0, stage := .transcribing } } :=
        hset.set hstream trivial (.inr hzero) fun hx => by cases hx
      exact hnext
    | overflow => exact hdrop .queueOverflow (by simp)
    | unavailable => exact hdrop .providerUnavailable (by simp)

theorem Alive.discard (h : Alive stream s) (hending : Ending s)
    (hkept : Kept s.toPublicationQueue) (hclosed : s.closed = false) (hid : id ∉ s.terminalIds)
    {utterance : Utterance} (hstream : utterance.streamId = stream)
    (hstage : utterance.stage = .collecting) (hzero : framesOf id s.story = 0)
    (endOfUtterance : Bool) : Alive stream (s.discard id utterance endOfUtterance).2 := by
  have hset : Alive stream { s with
      utterances := s.utterances.insert id
        { utterance with discarding := true, bufferedMs := 0 } } := by
    refine h.set hstream ?_ (.inr ?_) fun _ => hstage
    · rw [hstage]
      trivial
    · rw [hzero, hstage]
      rfl
  have hsetEnding := hending.insert hid { utterance with discarding := true, bufferedMs := 0 }
  unfold Session.discard
  dsimp only
  split
  · exact Alive.dropLocked
      (s := { s with
        collectingId := none
        utterances := s.utterances.insert id
          { utterance with discarding := true, bufferedMs := 0 } })
      (hset.congr rfl rfl rfl rfl rfl rfl fun _ hx => by cases hx)
      (hsetEnding.fewer ⟨.refl _, rfl, fun _ hx => hx⟩) hkept hclosed hid hstream
      fun h => by cases h
  · exact hset

theorem Alive.submitFrame (h : Alive stream s) (hending : Ending s)
    (hkept : Kept s.toPublicationQueue) (hclosed : s.closed = false) {frame : ProviderInputFrame}
    (hstream : frame.streamId = stream) (modelsAvailable : Bool) (admission : Admission) :
    Alive stream (s.submitFrame frame modelsAvailable admission).2 := by
  have hvalid := h.validateFrame frame
  have hvalidEnding := hending.fewer (fewer_validateFrame s frame)
  have hvalidKept : Kept (s.validateFrame frame).2.toPublicationQueue :=
    (validateFrame_queue s frame).symm ▸ hkept
  unfold Session.submitFrame
  split
  next hv =>
    rw [hv] at hvalid
    exact hvalid.1
  next s₁ hv =>
    rw [hv] at hvalid hvalidEnding hvalidKept
    have hcollecting := hvalid.1.collectingUtterance hvalidKept (hvalid.2.trans hclosed) hstream
    have hcollectingEnding := hvalidEnding.collectingUtterance frame
    have hcollectingKept := collectingUtterance_kept hvalidKept frame
    split
    next hc =>
      rw [hc] at hcollecting
      exact hcollecting.1
    next utterance s₂ hc =>
      rw [hc] at hcollecting hcollectingEnding hcollectingKept
      obtain ⟨halive, hutterance⟩ := hcollecting
      obtain ⟨hopen, hown, hstage, hzero⟩ := hutterance utterance rfl
      obtain ⟨hlive, hnot⟩ := hcollectingEnding
      have hid : frame.utteranceId ∉ s₂.terminalIds := by
        rcases hnot with hid | ⟨_, herror⟩
        · exact hid
        · cases herror
      have hset : Alive stream { s₂ with lastInputSequence := some frame.sequence } :=
        halive.congr rfl rfl rfl rfl rfl rfl fun _ hx => hx
      have hsetEnding : Ending { s₂ with lastInputSequence := some frame.sequence } :=
        hlive.fewer ⟨.refl _, rfl, fun _ hx => hx⟩
      have hgrown : Alive stream { s₂ with
          lastInputSequence := some frame.sequence
          utterances := s₂.utterances.insert frame.utteranceId
            { utterance with bufferedMs := utterance.bufferedMs + frame.frameDurationMs } } := by
        refine hset.set hown ?_ (.inr ?_) fun _ => hstage
        · rw [hstage]
          trivial
        · exact hzero.trans (hstage ▸ rfl)
      dsimp only
      split
      · exact hset.discard hsetEnding hcollectingKept hopen hid hown hstage hzero _
      split
      · exact hgrown
      · exact hgrown.finishCollecting (hsetEnding.insert hid _) hcollectingKept hopen hid hown
          hzero _ _

theorem Alive.cancelUtterance (h : Alive stream s) (hending : Ending s)
    (hkept : Kept s.toPublicationQueue) (hclosed : s.closed = false) (request : CancelUtterance) :
    Alive stream (s.cancelUtterance request).2 := by
  unfold Session.cancelUtterance
  split
  · exact h
  split
  · exact h
  next utterance hlookup =>
    have hid : request.utteranceId ∉ s.terminalIds := by
      refine hending.live _ (Table.mem_iff_isSome.mpr ?_)
      rw [hlookup]
      rfl
    have hset : Alive stream { s with
        collectingId := if s.collectingId = some request.utteranceId then none
          else s.collectingId } := by
      refine h.congr rfl rfl rfl rfl rfl rfl fun x hx => ?_
      dsimp only at hx
      split at hx
      · cases hx
      · exact hx
    refine hset.purgeEnd (hending.fewer ⟨.refl _, rfl, fun _ hx => hx⟩) hkept hclosed hid rfl
      (fun u hu => ?_) fun u a b c hp => by cases hp
    cases hu
    exact (h.going hclosed).own _ utterance hlookup

theorem Alive.updateDebugText (h : Alive stream s) (hkept : Kept s.toPublicationQueue)
    (hclosed : s.closed = false) {enabled : Bool}
    (hallowed : enabled = true → s.request.debugTextEnabled = true) :
    Alive stream (s.updateDebugText enabled) := by
  obtain ⟨h₁, h₂, h₃, h₄, h₅, h₆, h₇⟩ := h.going hclosed
  unfold Session.updateDebugText
  dsimp only
  split
  next hon => exact ⟨h.tells, h.table, fun _ => ⟨h₁, h₂, h₃, h₄, h₅, hallowed, h₇⟩⟩
  next hoff =>
    have hstory : (onQueue { s with debugTextEnabled := enabled }
        (·.purge Publication.isDebug)).story
          = s.told ++ s.unsent.filter fun p => !Publication.isDebug p := by
      rw [← purge_unsent hkept.flight, ← purge_told s.toPublicationQueue Publication.isDebug]
      rfl
    have hframes (x : Uuid) : framesOf x (s.told ++ s.unsent.filter fun p => !Publication.isDebug p)
        = framesOf x s.story := by
      rw [Session.story, framesOf_append, framesOf_append, framesOf_filter]
      intro q _ hq
      cases q <;> first | rfl | cases hq
    refine ⟨?_, fun x n hn => ?_, fun _ => ?_⟩
    · rw [hstory]
      refine tells_filter h.tells fun u sequence pcm _ q hq => ?_
      cases q <;> first | rfl | cases hq
    · have hn : s.lastAudioSequence.lookup x = n := by
        rw [← hn]
        exact congrArg (AList.lookup x) (purge_table _ _).symm
      rw [h.table x n hn]
      exact congrArg (fun told => lastFrame (framesOf x told)) (purge_told _ _).symm
    · rw [hstory]
      refine ⟨fun hmem => ?_, h₂, h₃, fun x u hu hx => ?_, fun x hx => ?_, hallowed, h₇⟩
      · exact h₁ (((List.Sublist.refl _).append List.filter_sublist).subset hmem)
      · rw [hframes]
        exact h₄ x u hu hx
      · rw [hframes] at hx
        exact h₅ x hx

theorem Alive.closeSession (h : Alive stream s) (hkept : Kept s.toPublicationQueue)
    (hclosed : s.closed = false) : Alive stream s.closeSession := by
  have hopen := h.going hclosed
  have hshut : Alive stream { s with
      closed := true
      debugTextEnabled := false
      utterances := ∅
      collectingId := none
      toPublicationQueue := s.purge fun _ => true } :=
    h.shut hkept.flight rfl (purge_told _ _) rfl (purge_table _ _) rfl
  refine alive_append (hkept.purge fun _ => true).flight hshut.tells hshut.table ?_
    fun hc => by cases hc
  refine ⟨fun hmem => ?_, fun u hu => (by cases hu), fun u hu => (by cases hu),
    fun h => (by cases h), fun u n pcm hp => (by cases hp), fun u a b c hp => (by cases hp)⟩
  have hnone : (s.purge fun _ => true).unsent = [] := by
    rw [purge_unsent hkept.flight]
    simp
  rcases List.mem_append.mp hmem with htold | hunsent
  · have hmem : Publication.session ∈ s.told := purge_told s.toPublicationQueue _ ▸ htold
    exact hopen.unclosed (List.mem_append_left _ hmem)
  · have hmem : Publication.session ∈ (s.purge fun _ => true).unsent := hunsent
    rw [hnone] at hmem
    cases hmem

/-! ### The pipeline -/

/-- What a pipeline queues: the texts while they are asked for, or its next frame. -/
def Enqueued (s : Session) (id : Uuid) (u : Utterance) (p : Publication) (stage : Stage) : Prop :=
  (∃ source translation, p = .debug (u.ref id) source translation
      ∧ s.debugTextEnabled = true ∧ u.stage.frames = stage.frames)
    ∨ ∃ pcm, p = .audio (u.ref id) u.stage.frames pcm ∧ stage.frames = u.stage.frames + 1
      ∧ pcm.length = expectedBytes s.request.requestedOutputFormat

theorem tells_enqueued {u : Utterance} {stage : Stage} (hending : Ending s)
    (hopen : Open stream none s.story s) (hid : id ∉ s.terminalIds) (hstream : u.streamId = stream)
    (hframes : framesOf id s.story = u.stage.frames) (hwhat : Enqueued s id u p stage) :
    Tells s.request stream s.story p := by
  have hover : id ∉ terminated s.story := fun hmem => hid (terminated_known hending hmem)
  rcases hwhat with ⟨source, translation, rfl, hdebug, -⟩ | ⟨pcm, rfl, -, hlength⟩
  · refine ⟨hopen.unclosed, fun v hv => ?_, fun v hv => (by cases hv), fun _ => hopen.debug hdebug,
      fun v n pcm hp => (by cases hp), fun v a b c hp => (by cases hp)⟩
    cases hv
    exact ⟨hstream, hover⟩
  · refine ⟨hopen.unclosed, fun v hv => ?_, fun v hv => (by cases hv), fun hd => (by cases hd),
      fun v n pcm hp => ?_, fun v a b c hp => (by cases hp)⟩
    · cases hv
      exact ⟨hstream, hover⟩
    · cases hp
      exact ⟨hframes.symm, hlength⟩

theorem open_enqueued {u : Utterance} {stage : Stage} (hopen : Open stream none s.story s)
    (hlookup : s.utterances.lookup id = some u) (hpast : u.stage ≠ .collecting)
    (hfits : stage.Fits s.request.requestedOutputFormat)
    (hframes : framesOf id s.story = u.stage.frames) (hwhat : Enqueued s id u p stage) :
    Open stream none ((s.setStage id u stage).story ++ [p]) (s.setStage id u stage) := by
  have hsession : p ≠ .session := by
    rcases hwhat with ⟨_, _, rfl, -⟩ | ⟨_, rfl, -⟩ <;> simp
  have hown : framesOf id (s.story ++ [p]) = stage.frames := by
    rcases hwhat with ⟨_, _, rfl, -, hsame⟩ | ⟨_, rfl, hnext, -⟩
    · rw [framesOf_silent rfl, hframes, hsame]
    · rw [framesOf_concat, hframes, hnext]
      simp [Publication.sequenceOf, Utterance.ref]
  have hother (x : Uuid) (hx : x ≠ id) : framesOf x (s.story ++ [p]) = framesOf x s.story := by
    rcases hwhat with ⟨_, _, rfl, -⟩ | ⟨_, rfl, -⟩
    · exact framesOf_silent rfl _
    · refine framesOf_silent ?_ _
      simp [Publication.sequenceOf, Utterance.ref, hx.symm]
  have hcases (x : Uuid) (v : Utterance)
      (hv : (s.setStage id u stage).utterances.lookup x = some v) :
      (x = id ∧ v = { u with stage := stage }) ∨ (x ≠ id ∧ s.utterances.lookup x = some v) := by
    simp only [setStage, Table.lookup_insert_if] at hv
    split at hv
    next hx => exact .inl ⟨hx, (Option.some.inj hv).symm⟩
    next hx => exact .inr ⟨hx, hv⟩
  refine ⟨?_, ?_, ?_, ?_, fun x hx => ?_, hopen.debug, ?_⟩
  · intro hmem
    rcases List.mem_append.mp hmem with hold | hnew
    · exact hopen.unclosed hold
    · exact hsession (List.mem_singleton.mp hnew).symm
  · intro x v hv
    rcases hcases x v hv with ⟨rfl, rfl⟩ | ⟨-, hold⟩
    · exact hopen.own x u hlookup
    · exact hopen.own x v hold
  · intro x v hv
    rcases hcases x v hv with ⟨rfl, rfl⟩ | ⟨-, hold⟩
    · exact hfits
    · exact hopen.fits x v hold
  · intro x v hv hbut
    rcases hcases x v hv with ⟨rfl, rfl⟩ | ⟨hx, hold⟩
    · exact .inr hown
    · exact (hopen.frames x v hold hbut).imp_right (hother x hx).trans
  · by_cases hxid : x = id
    · exact .inl ((AList.mem_insert _).mpr (.inl hxid))
    · refine (hopen.spoken x fun hzero => hx ((hother x hxid).trans hzero)).imp_left fun hold => ?_
      exact (AList.mem_insert _).mpr (.inr hold)
  · intro x v hx hv
    rcases hcases x v hv with ⟨rfl, rfl⟩ | ⟨-, hold⟩
    · exact absurd (hopen.collecting x u hx hlookup) hpast
    · exact hopen.collecting x v hx hold

/-- What the pipeline of an utterance may want, and where the utterance is then. -/
theorem pipeline_cases (s : Session) (id : Uuid) (u : Utterance) (inference : Inference)
    (hfits : u.stage.Fits s.request.requestedOutputFormat) :
    match s.pipeline id u inference with
    | .nothing => True
    | .stage stage => u.stage ≠ .abandoned ∧ u.stage ≠ .collecting
      ∧ (stage = .abandoned ∨ u.stage.frames = stage.frames)
      ∧ stage.Fits s.request.requestedOutputFormat
    | .drop code asrMs mtMs ttsMs => code = .noSpeech →
      u.stage = .transcribing ∧ asrMs.isSome ∧ mtMs = none ∧ ttsMs = none
    | .complete .. => True
    | .enqueue p stage => u.stage ≠ .abandoned ∧ u.stage ≠ .collecting
      ∧ stage.Fits s.request.requestedOutputFormat ∧ Enqueued s id u p stage := by
  obtain ⟨streamId, onset, discarding, buffered, stage⟩ := u
  cases stage <;> cases inference <;>
    simp only [pipeline, Stage.measured] <;> (try split_ifs) <;>
    simp_all [Stage.frames, Stage.Fits, Enqueued]

theorem Alive.infer (h : Alive stream s) (hending : Ending s) (hkept : Kept s.toPublicationQueue)
    (id : Uuid) (inference : Inference) : Alive stream (s.infer id inference) := by
  unfold Session.infer
  split
  · exact h
  next u hcurrent =>
    have hclosed : s.closed = false := by
      by_contra hc
      simp [current, hc] at hcurrent
    have hid : id ∉ s.terminalIds := by
      intro hmem
      simp [current, hmem] at hcurrent
    have hlookup : s.utterances.lookup id = some u := by
      simpa [current, hclosed, hid] using hcurrent
    have hopen := h.going hclosed
    have hstream := hopen.own id u hlookup
    have hcounts := hopen.frames id u hlookup (by simp)
    have hcollecting := hopen.collecting id u
    have hcases := pipeline_cases s id u inference (hopen.fits id u hlookup)
    cases hdemand : s.pipeline id u inference with
    | nothing => exact h
    | stage stage =>
      rw [hdemand] at hcases
      obtain ⟨hlive, hpast, hframes, hfits⟩ := hcases
      refine h.set hstream hfits ?_ fun hc => absurd (hcollecting hc hlookup) hpast
      rcases hframes with rfl | hframes
      · exact .inl rfl
      · exact .inr ((hcounts.resolve_left hlive).trans hframes)
    | drop code asrMs mtMs ttsMs =>
      rw [hdemand] at hcases
      refine h.dropLocked hending hkept hclosed hid hstream fun hcode => ?_
      obtain ⟨hstage, hasr, hmt, htts⟩ := hcases hcode
      rw [hstage] at hcounts
      exact ⟨hasr, hmt, htts, hcounts.resolve_left (by simp)⟩
    | complete asrMs mtMs ttsMs =>
      refine alive_terminalize hending hkept.flight h.tells h.table
        ⟨hopen.unclosed, hopen.own, hopen.fits, fun x v hv _ => hopen.frames x v hv (by simp),
          hopen.spoken, hopen.debug, hopen.collecting⟩ hid rfl (fun v hv => ?_)
        fun v a b c hp => by cases hp
      cases hv
      exact hstream
    | enqueue p stage =>
      rw [hdemand] at hcases
      obtain ⟨hlive, hpast, hfits, hwhat⟩ := hcases
      have hframes := hcounts.resolve_left hlive
      cases henqueue : (s.setStage id u stage).enqueue p with
      | none => simpa [perform, henqueue] using h
      | some s' =>
        have hdone : Alive stream s' := by
          unfold enqueue at henqueue
          split at henqueue
          · cases henqueue
            exact h.shut hkept.flight rfl (purge_told _ _) rfl (purge_table _ _) rfl
          split at henqueue
          · cases henqueue
          · cases henqueue
            exact alive_append (s := s.setStage id u stage) hkept.flight h.tells h.table
              (tells_enqueued (s := s) hending hopen hid hstream hframes hwhat)
              fun _ => open_enqueued hopen hlookup hpast hfits hframes hwhat
        simpa [perform, henqueue] using hdone

end Session

end Translator.Sidecar
