import Translator.Sidecar.Finals

/-! What a stream of publications tells: a publication that may follow the others is written to a wire
    that goes on in the language of the contract, event by event. -/

namespace Translator.Sidecar
open Schemes
open Wire (Uuid)
open Wire.ProviderEventValidator (new)

/-! ### What a stream of publications tells -/

/-- How many frames of an utterance are among some publications. -/
def framesOf (id : Uuid) (told : List Publication) : Nat :=
  told.countP fun p => (p.sequenceOf id).isSome

/-- The utterances some publications end. -/
def terminated (told : List Publication) : Finset Uuid :=
  (told.filterMap Publication.terminalOf).toFinset

/-- The sequence of the last of `n` frames. -/
def lastFrame (n : Nat) : Option Nat := if n = 0 then none else some (n - 1)

/-- The publication may follow these in a session with this request and stream. -/
structure Tells (request : OpenProviderSession) (stream : Uuid) (told : List Publication)
    (p : Publication) : Prop where
  unclosed : Publication.session ∉ told
  own : ∀ u, p.utterance? = some u → u.streamId = stream ∧ u.utteranceId ∉ terminated told
  room : ∀ u, p.terminalOf = some u → (terminated told).card < maxTerminalIds
  debug : p.isDebug = true → request.debugTextEnabled = true
  frame : ∀ u sequence pcm, p = .audio u sequence pcm → sequence = framesOf u.utteranceId told
    ∧ pcm.length = Session.expectedBytes request.requestedOutputFormat
  silent : ∀ u asrMs mtMs ttsMs, p = .dropped u .noSpeech asrMs mtMs ttsMs →
    asrMs.isSome ∧ mtMs = none ∧ ttsMs = none ∧ framesOf u.utteranceId told = 0

/-- What a wire that goes on has told so far. -/
structure Heard (contract : Wire.ProviderSessionContract) (past : Finset Uuid)
    (frames : Uuid → Nat) (last : Nat) (wire : List Wire.Event) : Prop where
  lawful : Wire.Lawful contract wire
  opened : wire ≠ []
  unclosed : ∀ e ∈ wire, e.isSessionClosed = false
  ended : Wire.ended wire = past
  audio : ∀ u, (Wire.lastAudio u wire).map UInt64.toNat = lastFrame (frames u)
  last : ∃ e, wire.getLast? = some e ∧ e.eventSequence.toNat ≤ last

variable {contract : Wire.ProviderSessionContract} {past : Finset Uuid} {frames : Uuid → Nat}
variable {last : Nat} {wire : List Wire.Event} {e : Wire.Event}

/-- An event that may come next, as far as the wire so far is known. -/
theorem Heard.follows (h : Heard contract past frames last wire)
    (hopen : e.isSessionOpened = false) (hsequence : last < e.eventSequence.toNat)
    (haddressed : (new contract).Addressed e) (hparses : e.utteranceField ≠ some none)
    (hlive : ∀ u, e.Names u → u ∉ past)
    (hroom : ∀ u, e.finalOf = some u → past.card < Wire.maxTerminalUtterances)
    (hpays : ∀ (code : Wire.SafeErrorCode) (u : Uuid), code = .queueOverflow ∨ code = .noSpeech →
      Wire.atLast (Wire.Event.errorOf code) wire = some u →
        ∃ f, e = .utteranceFinal f ∧ f.utteranceId = some u
          ∧ f.outcome = Wire.UtteranceOutcome.dropped.code
          ∧ (code = .noSpeech → Wire.lastAudio u wire = none))
    (hcontent : Wire.Content contract wire e) : Wire.Follows contract wire e where
  first := by
    cases wire with
    | nil => exact absurd rfl h.opened
    | cons p rest => exact hopen
  increasing := by
    obtain ⟨p, hp, hle⟩ := h.last
    rw [hp]
    exact UInt64.lt_iff_toNat_lt.mpr (by omega)
  unclosed := h.unclosed
  addressed := haddressed
  parses := hparses
  live u hu := by
    rw [h.ended]
    exact hlive u hu
  room u hu := by
    rw [h.ended]
    exact hroom u hu
  pays := hpays
  content := hcontent

theorem Heard.concat (h : Heard contract past frames last wire)
    (hf : Wire.Follows contract wire e) (hclosed : e.isSessionClosed = false)
    {past' : Finset Uuid} (hended : Wire.ended (wire ++ [e]) = past') {frames' : Uuid → Nat}
    (haudio : ∀ u, (Wire.lastAudio u (wire ++ [e])).map UInt64.toNat = lastFrame (frames' u))
    {last' : Nat} (hlast : e.eventSequence.toNat ≤ last') :
    Heard contract past' frames' last' (wire ++ [e]) where
  lawful := atEach_concat h.lawful hf
  opened := by simp
  unclosed p hp := by
    rcases List.mem_append.mp hp with hold | hnew
    · exact h.unclosed p hold
    · rw [List.mem_singleton.mp hnew]
      exact hclosed
  ended := hended
  audio := haudio
  last := ⟨e, by simp, hlast⟩

/-- An event that is neither a frame nor a final leaves what was told as it is. -/
theorem Heard.note (h : Heard contract past frames last wire)
    (hf : Wire.Follows contract wire e) (hclosed : e.isSessionClosed = false)
    (hfinal : e.finalOf = none) (haudio : ∀ u, e.audioOf u = none) :
    Heard contract past frames e.eventSequence.toNat (wire ++ [e]) := by
  refine h.concat hf hclosed ?_ (fun u => ?_) (Nat.le_refl _)
  · rw [Wire.ended_concat_none hfinal, h.ended]
  · rw [Wire.lastAudio_concat, haudio u, Option.none_or, h.audio u]

/-! ### What one event says -/

theorem setOptional_toNat {o : Option Nat} {o' : Option UInt64}
    (h : setOptional toUInt64 o = some o') : o'.map UInt64.toNat = o := by
  cases o with
  | none =>
    cases h
    rfl
  | some n =>
    simp only [setOptional, Option.map_eq_some_iff] at h
    obtain ⟨m, hm, rfl⟩ := h
    rw [Option.map_some, toUInt64_toNat hm]

/-- The utterance an event is about. -/
def Body.utterance? : Body → Option UtteranceRef
  | .audioDelta u .. | .transcriptDelta u _ | .translationDelta u _ | .latency u .. | .error u _
  | .utteranceFinal u .. => some u
  | _ => none

variable {request : OpenProviderSession} {stream : Uuid} {n : Nat} {body : Body}

theorem direction_code (direction : Core.AudioDirection) :
    directionToProto direction = (Wire.providerDirection direction).code := by
  cases direction <;> rfl

/-- An event of the session is one of its contract. -/
theorem addressed_of_encoded (h : request.eventToProto ⟨n, body⟩ = some e)
    (hstream : ∀ u, body.utterance? = some u → u.streamId = stream) :
    (new (request.contract stream)).Addressed e
      ∧ e.utteranceField = body.utterance?.map (fun u => some u.utteranceId)
      ∧ e.eventSequence.toNat = n := by
  simp only [OpenProviderSession.eventToProto, Option.bind_eq_bind, Option.bind_eq_some_iff] at h
  obtain ⟨m, hm, h⟩ := h
  have hn := toUInt64_toNat hm
  have hdirection := direction_code request.directionId
  cases body <;>
    simp only [OpenProviderSession.bodyToProto, Option.bind_eq_bind, Option.bind_eq_some_iff,
      Option.some.injEq] at h
  case health =>
    obtain ⟨_, -, _, -, _, -, rfl⟩ := h
    exact ⟨⟨rfl, rfl, hdirection, fun _ ht => (by cases ht), fun _ hx => (by cases hx)⟩, rfl, hn⟩
  case audioDelta u _ _ _ =>
    obtain ⟨_, -, _, -, rfl⟩ := h
    refine ⟨⟨rfl, rfl, hdirection, fun t ht => ?_, fun _ hx => (by cases hx)⟩, rfl, hn⟩
    cases ht
    exact congrArg some (hstream u rfl)
  case latency u _ _ _ _ =>
    obtain ⟨_, -, _, -, _, -, _, -, rfl⟩ := h
    refine ⟨⟨rfl, rfl, hdirection, fun t ht => ?_, fun _ hx => (by cases hx)⟩, rfl, hn⟩
    cases ht
    exact congrArg some (hstream u rfl)
  case utteranceFinal u _ _ =>
    obtain ⟨_, -, rfl⟩ := h
    refine ⟨⟨rfl, rfl, hdirection, fun t ht => ?_, fun _ hx => (by cases hx)⟩, rfl, hn⟩
    cases ht
    exact congrArg some (hstream u rfl)
  case transcriptDelta u _ =>
    subst h
    refine ⟨⟨rfl, rfl, hdirection, fun t ht => ?_, fun _ hx => (by cases hx)⟩, rfl, hn⟩
    cases ht
    exact congrArg some (hstream u rfl)
  case translationDelta u _ =>
    subst h
    refine ⟨⟨rfl, rfl, hdirection, fun t ht => ?_, fun _ hx => (by cases hx)⟩, rfl, hn⟩
    cases ht
    exact congrArg some (hstream u rfl)
  case error u _ =>
    subst h
    refine ⟨⟨rfl, rfl, hdirection, fun t ht => ?_, fun _ hx hnone => ?_⟩, rfl, hn⟩
    · cases ht
      exact congrArg some (hstream u rfl)
    · cases hx
      cases hnone
  all_goals
    subst h
    exact ⟨⟨rfl, rfl, hdirection, fun _ ht => (by cases ht), fun _ hx => (by cases hx)⟩, rfl, hn⟩

/-- What an encoded event needs besides its contents to come next. -/
theorem Heard.encoded (h : Heard (request.contract stream) past frames last wire)
    (he : request.eventToProto ⟨n, body⟩ = some e) (hopen : e.isSessionOpened = false)
    (hbefore : last < n) (hown : ∀ u, body.utterance? = some u →
      u.streamId = stream ∧ u.utteranceId ∉ past)
    (hroom : ∀ u, e.finalOf = some u → past.card < Wire.maxTerminalUtterances)
    (hpays : ∀ (code : Wire.SafeErrorCode) (u : Uuid), code = .queueOverflow ∨ code = .noSpeech →
      Wire.atLast (Wire.Event.errorOf code) wire = some u →
        ∃ f, e = .utteranceFinal f ∧ f.utteranceId = some u
          ∧ f.outcome = Wire.UtteranceOutcome.dropped.code
          ∧ (code = .noSpeech → Wire.lastAudio u wire = none))
    (hcontent : Wire.Content (request.contract stream) wire e) :
    Wire.Follows (request.contract stream) wire e := by
  obtain ⟨haddressed, hfield, hsequence⟩ := addressed_of_encoded he fun u hu => (hown u hu).1
  refine h.follows hopen (by omega) haddressed ?_ (fun u hu => ?_) hroom hpays hcontent
  · rw [hfield]
    cases body.utterance? <;> simp
  · rw [Wire.Event.Names, hfield, Option.map_eq_some_iff] at hu
    obtain ⟨ref, href, heq⟩ := hu
    cases heq
    exact (hown ref href).2

/-- No error is owed its final. -/
def Calm (wire : List Wire.Event) : Prop :=
  ∀ code, Wire.atLast (Wire.Event.errorOf code) wire = none

theorem calm_concat (wire : List Wire.Event) (h : ∀ code, e.errorOf code = none) :
    Calm (wire ++ [e]) := by
  intro code
  rw [Wire.atLast_concat, h code]

theorem pays_of_calm (h : Calm wire) (e : Wire.Event) (code : Wire.SafeErrorCode) (u : Uuid)
    (_ : code = .queueOverflow ∨ code = .noSpeech)
    (hlast : Wire.atLast (Wire.Event.errorOf code) wire = some u) :
    ∃ f, e = .utteranceFinal f ∧ f.utteranceId = some u
      ∧ f.outcome = Wire.UtteranceOutcome.dropped.code
      ∧ (code = .noSpeech → Wire.lastAudio u wire = none) := by
  rw [h code] at hlast
  cases hlast

/-! ### The events of an utterance -/

variable {u : UtteranceRef}

/-- A debug text or a latency report. -/
theorem Heard.report (h : Heard (request.contract stream) past frames last wire) (hcalm : Calm wire)
    (hbefore : last < n) (hu : u.streamId = stream) (hover : u.utteranceId ∉ past)
    (hbody : (∃ text, body = .transcriptDelta u text ∨ body = .translationDelta u text)
        ∧ request.debugTextEnabled = true
      ∨ ∃ asrMs mtMs ttsMs totalMs, body = .latency u asrMs mtMs ttsMs totalMs)
    (he : request.eventToProto ⟨n, body⟩ = some e) :
    Heard (request.contract stream) past frames n (wire ++ [e]) ∧ Calm (wire ++ [e]) := by
  have hsequence : e.eventSequence.toNat = n := eventToProto_sequence he
  have hown : ∀ ref, body.utterance? = some ref →
      ref.streamId = stream ∧ ref.utteranceId ∉ past := by
    intro ref href
    rcases hbody with ⟨⟨text, rfl | rfl⟩, -⟩ | ⟨_, _, _, _, rfl⟩ <;>
      (cases href; exact ⟨hu, hover⟩)
  have hshape : e.isSessionOpened = false ∧ e.isSessionClosed = false ∧ e.finalOf = none
      ∧ (∀ x, e.audioOf x = none) ∧ (∀ code, e.errorOf code = none)
      ∧ Wire.Content (request.contract stream) wire e := by
    simp only [OpenProviderSession.eventToProto, Option.bind_eq_bind, Option.bind_eq_some_iff] at he
    obtain ⟨m, -, he⟩ := he
    rcases hbody with ⟨⟨text, rfl | rfl⟩, hdebug⟩ | ⟨_, _, _, _, rfl⟩ <;>
      simp only [OpenProviderSession.bodyToProto, Option.bind_eq_bind, Option.bind_eq_some_iff,
        Option.some.injEq] at he
    · subst he
      exact ⟨rfl, rfl, rfl, fun _ => rfl, fun _ => rfl, hdebug⟩
    · subst he
      exact ⟨rfl, rfl, rfl, fun _ => rfl, fun _ => rfl, hdebug⟩
    · obtain ⟨_, -, _, -, _, -, _, -, rfl⟩ := he
      exact ⟨rfl, rfl, rfl, fun _ => rfl, fun _ => rfl, trivial⟩
  obtain ⟨hopen, hclosed, hfinal, haudio, herror, hcontent⟩ := hshape
  refine ⟨hsequence ▸ h.note (h.encoded he hopen hbefore hown (by simp [hfinal])
    (pays_of_calm hcalm e) hcontent) hclosed hfinal haudio, calm_concat wire herror⟩

theorem nextAfter_of_lastFrame {previous : Option UInt64} {sequence : UInt64} {k : Nat}
    (hprevious : previous.map UInt64.toNat = lastFrame k) (hsequence : sequence.toNat = k) :
    Wire.NextAfter previous sequence := by
  cases previous with
  | none =>
    have hk : k = 0 := by
      by_contra hne
      simp [lastFrame, hne] at hprevious
    exact UInt64.toNat_inj.mp (by rw [hsequence, hk]; rfl)
  | some p =>
    simp only [Option.map_some, lastFrame] at hprevious
    split at hprevious
    · cases hprevious
    next hne =>
      have hp : p.toNat = k - 1 := Option.some.inj hprevious
      show sequence.toNat = p.toNat + 1
      omega

/-- The frame sizes of both sides agree on the formats there are. -/
theorem expectedBytes_wire (format : PcmFormat) : Session.expectedBytes format
    = format.sampleRateHz * format.channels * 2 * format.frameDurationMs % 2 ^ 64 / 1000 := by
  obtain ⟨rate, channels, duration, hrate, hchannels, hduration⟩ := format
  rcases hrate with rfl | rfl | rfl <;> rcases hchannels with rfl | rfl <;>
    rcases hduration with rfl | rfl | rfl | rfl | rfl <;> rfl

/-- The next frame of an utterance. -/
theorem Heard.frame (h : Heard (request.contract stream) past frames last wire)
    (hcalm : Calm wire) (hbefore : last < n) (hu : u.streamId = stream)
    (hover : u.utteranceId ∉ past) {nowNs : Nat} {pcm : List UInt8}
    (hpcm : pcm.length = Session.expectedBytes request.requestedOutputFormat)
    (he : request.eventToProto ⟨n, .audioDelta u (frames u.utteranceId) nowNs pcm⟩ = some e) :
    Heard (request.contract stream) past
        (fun x => frames x + if u.utteranceId = x then 1 else 0) n (wire ++ [e])
      ∧ Calm (wire ++ [e]) := by
  have hsequence : e.eventSequence.toNat = n := eventToProto_sequence he
  have hcoded := he
  simp only [OpenProviderSession.eventToProto, OpenProviderSession.bodyToProto,
    Option.bind_eq_bind, Option.bind_eq_some_iff, Option.some.injEq] at hcoded
  obtain ⟨m, -, sequence, hseq, _, -, rfl⟩ := hcoded
  have hnumber := toUInt64_toNat hseq
  have hf := h.encoded he rfl hbefore (by
      intro ref href
      cases href
      exact ⟨hu, hover⟩) (by intro x hx; cases hx) (pays_of_calm hcalm _)
    ⟨⟨rfl, rfl, rfl, rfl, ?_⟩, ?_⟩
  · refine ⟨?_, calm_concat wire fun _ => rfl⟩
    refine h.concat hf rfl ?_ (fun x => ?_) (Nat.le_of_eq hsequence)
    · rw [Wire.ended_concat_none rfl, h.ended]
    · rw [Wire.lastAudio_concat, Wire.Event.audioOf]
      by_cases hx : u.utteranceId = x
      · subst hx
        simp [lastFrame, hnumber]
      · simp [hx, h.audio x]
  · rw [hpcm]
    exact expectedBytes_wire request.requestedOutputFormat
  · intro x hx
    cases hx
    exact nextAfter_of_lastFrame (h.audio u.utteranceId) hnumber

/-- The final of an utterance, when what is owed is this one. -/
theorem Heard.finish (h : Heard (request.contract stream) past frames last wire)
    (hbefore : last < n) (hu : u.streamId = stream) (hover : u.utteranceId ∉ past)
    (hroom : past.card < Wire.maxTerminalUtterances) {outcome : UtteranceOutcome}
    (he : request.eventToProto
      ⟨n, .utteranceFinal u (lastFrame (frames u.utteranceId)) outcome⟩ = some e)
    (hpays : Calm wire ∨ outcome = .dropped
      ∧ (∀ code x, Wire.atLast (Wire.Event.errorOf code) wire = some x → x = u.utteranceId)
      ∧ (∀ x, Wire.atLast (Wire.Event.errorOf .noSpeech) wire = some x →
        frames u.utteranceId = 0)) :
    Heard (request.contract stream) (insert u.utteranceId past) frames n (wire ++ [e])
      ∧ Calm (wire ++ [e]) := by
  have hsequence : e.eventSequence.toNat = n := eventToProto_sequence he
  have hcoded := he
  simp only [OpenProviderSession.eventToProto, OpenProviderSession.bodyToProto,
    Option.bind_eq_bind, Option.bind_eq_some_iff, Option.some.injEq] at hcoded
  obtain ⟨m, -, final, hfinal, rfl⟩ := hcoded
  have hlast := setOptional_toNat hfinal
  have hsame : final = Wire.lastAudio u.utteranceId wire :=
    Option.map_injective (fun _ _ => UInt64.toNat_inj.mp) (hlast.trans (h.audio _).symm)
  have hf := h.encoded he rfl hbefore (by
      intro ref href
      cases href
      exact ⟨hu, hover⟩) (fun _ _ => hroom) ?_ ⟨?_, ?_⟩
  · refine ⟨?_, calm_concat wire fun _ => rfl⟩
    refine h.concat hf rfl ?_ (fun x => ?_) (Nat.le_of_eq hsequence)
    · rw [Wire.ended_concat_final rfl, h.ended]
    · rw [Wire.lastAudio_concat]
      exact h.audio x
  · intro code x hcode hat
    rcases hpays with hcalm | ⟨rfl, hwho, hnone⟩
    · exact pays_of_calm hcalm _ code x hcode hat
    · obtain rfl := hwho code x hat
      refine ⟨_, rfl, rfl, rfl, fun hns => ?_⟩
      subst hns
      have hzero := hnone _ hat
      have haudio := h.audio u.utteranceId
      rw [hzero] at haudio
      exact Option.map_eq_none_iff.mp haudio
  · cases outcome with
    | completed => exact ⟨.completed, rfl, by decide⟩
    | cancelled => exact ⟨.cancelled, rfl, by decide⟩
    | dropped => exact ⟨.dropped, rfl, by decide⟩
  · intro x hx
    cases hx
    exact hsame

/-- The code on the wire. -/
def wireCode : SafeErrorCode → Wire.SafeErrorCode
  | .providerUnavailable => .providerUnavailable
  | .modelNotLoaded => .modelNotLoaded
  | .unsupportedLanguagePair => .unsupportedLanguagePair
  | .queueOverflow => .queueOverflow
  | .cancelled => .cancelled
  | .noSpeech => .noSpeech
  | .cloudNotEnabled => .cloudNotEnabled
  | .providerAuthFailed => .providerAuthFailed

theorem wireCode_told (code : SafeErrorCode) : errorToProto code = (wireCode code).code
    ∧ wireCode code ≠ .unspecified
    ∧ safeErrorMessages code = Wire.safeErrorMessage (wireCode code) := by
  cases code <;> exact ⟨rfl, by decide, rfl⟩

/-- The error of an utterance after its latency report. -/
theorem Heard.fail (h : Heard (request.contract stream) past frames last wire) (hcalm : Calm wire)
    (hbefore : last < n) (hu : u.streamId = stream) (hover : u.utteranceId ∉ past)
    {code : SafeErrorCode} (hsilent : code = .noSpeech →
      Wire.atLast Wire.Event.recognisedOnly wire = some u.utteranceId)
    (he : request.eventToProto ⟨n, .error u code⟩ = some e) :
    Heard (request.contract stream) past frames n (wire ++ [e])
      ∧ ∀ other x, Wire.atLast (Wire.Event.errorOf other) (wire ++ [e]) = some x →
        x = u.utteranceId ∧ (other = .noSpeech → code = .noSpeech) := by
  have hsequence : e.eventSequence.toNat = n := eventToProto_sequence he
  have hcoded := he
  simp only [OpenProviderSession.eventToProto, OpenProviderSession.bodyToProto,
    Option.bind_eq_bind, Option.bind_eq_some_iff, Option.some.injEq] at hcoded
  obtain ⟨m, -, rfl⟩ := hcoded
  obtain ⟨hcode, hne, hmessage⟩ := wireCode_told code
  have hf := h.encoded he rfl hbefore (by
      intro ref href
      cases href
      exact ⟨hu, hover⟩) (by intro x hx; cases hx) (pays_of_calm hcalm _)
    ⟨wireCode code, hcode, hne, hmessage, fun _ => ⟨_, rfl⟩, fun hns => ⟨u.utteranceId, rfl, ?_⟩⟩
  · refine ⟨hsequence ▸ h.note hf rfl rfl fun _ => rfl, fun other x hx => ?_⟩
    rw [Wire.atLast_concat, Wire.Event.errorOf] at hx
    split at hx
    next hsame =>
      cases hx
      refine ⟨rfl, ?_⟩
      rintro rfl
      simp only [hcode] at hsame
      cases code <;> first | rfl | (simp [wireCode, Wire.SafeErrorCode.code] at hsame)
    next => cases hx
  · apply hsilent
    cases code <;> first | rfl | (simp [wireCode] at hns)

/-! ### The events of a publication -/

theorem framesOf_concat (id : Uuid) (told : List Publication) (p : Publication) :
    framesOf id (told ++ [p]) = framesOf id told + if (p.sequenceOf id).isSome then 1 else 0 := by
  simp [framesOf, List.countP_append, List.countP_cons]

theorem terminated_concat (told : List Publication) (p : Publication) :
    terminated (told ++ [p]) = match p.terminalOf with
      | some id => insert id (terminated told)
      | none => terminated told := by
  cases h : p.terminalOf with
  | none => simp [terminated, List.filterMap_append, h]
  | some id =>
    ext x
    simp [terminated, List.filterMap_append, h]

theorem encoded_cons {base : Nat} {body : Body} {rest : List Body} {encoded : List Wire.Event}
    (h : (numbered base (body :: rest)).mapM request.eventToProto = some encoded) :
    ∃ e tail, request.eventToProto ⟨base + 1, body⟩ = some e
      ∧ (numbered (base + 1) rest).mapM request.eventToProto = some tail ∧ encoded = e :: tail := by
  simp only [numbered, List.mapM_cons, Option.bind_eq_bind, Option.bind_eq_some_iff,
    Option.pure_def, Option.some.injEq] at h
  obtain ⟨e, he, tail, htail, rfl⟩ := h
  exact ⟨e, tail, he, htail, rfl⟩

theorem encoded_nil {base : Nat} {encoded : List Wire.Event}
    (h : (numbered base []).mapM request.eventToProto = some encoded) : encoded = [] := by
  cases h
  rfl

variable {told : List Publication} {p : Publication} {base nowNs : Nat}
variable {encoded : List Wire.Event}

/-- What the wire has told when it has told these publications. -/
abbrev HeardAll (request : OpenProviderSession) (stream : Uuid) (told : List Publication)
    (last : Nat) (wire : List Wire.Event) : Prop :=
  Heard (request.contract stream) (terminated told) (framesOf · told) last wire ∧ Calm wire

/-- A publication that may follow is told in full. -/
theorem HeardAll.tell (h : HeardAll request stream told last wire) (hp : Tells request stream told p)
    (hopen : p ≠ .session) (hbase : last ≤ base) {table : Uuid → Option Nat}
    (htable : ∀ id, table id = lastFrame (framesOf id told))
    (he : (numbered base (p.bodies table nowNs)).mapM request.eventToProto = some encoded) :
    HeardAll request stream (told ++ [p]) (base + p.eventCount) (wire ++ encoded) := by
  obtain ⟨hheard, hcalm⟩ := h
  have hframes (hnot : ∀ id, p.sequenceOf id = none) :
      (framesOf · (told ++ [p])) = (framesOf · told) := by
    funext id
    simp [framesOf_concat, hnot id]
  cases p with
  | debug u source translation =>
    obtain ⟨hu, hover⟩ := hp.own u rfl
    obtain ⟨e₁, tail₁, h₁, he₁, rfl⟩ := encoded_cons he
    obtain ⟨e₂, tail₂, h₂, he₂, rfl⟩ := encoded_cons he₁
    obtain rfl := encoded_nil he₂
    obtain ⟨hheard, hcalm⟩ := hheard.report hcalm (by omega) hu hover
      (.inl ⟨⟨_, .inl rfl⟩, hp.debug rfl⟩) h₁
    have hdone := hheard.report hcalm (by omega) hu hover (.inl ⟨⟨_, .inr rfl⟩, hp.debug rfl⟩) h₂
    rw [List.append_assoc] at hdone
    rw [HeardAll, terminated_concat, hframes fun _ => rfl]
    exact hdone
  | audio u sequence pcm =>
    obtain ⟨hu, hover⟩ := hp.own u rfl
    obtain ⟨hsequence, hpcm⟩ := hp.frame u sequence pcm rfl
    subst hsequence
    obtain ⟨e₁, tail₁, h₁, he₁, rfl⟩ := encoded_cons he
    obtain rfl := encoded_nil he₁
    have hdone := hheard.frame hcalm (by omega) hu hover hpcm h₁
    have hcount : (framesOf · (told ++ [Publication.audio u (framesOf u.utteranceId told) pcm]))
        = fun x => framesOf x told + if u.utteranceId = x then 1 else 0 := by
      funext x
      rw [framesOf_concat, Publication.sequenceOf]
      by_cases hx : u.utteranceId = x <;> simp [hx]
    rw [HeardAll, terminated_concat, hcount]
    exact hdone
  | completed u asrMs mtMs ttsMs =>
    obtain ⟨hu, hover⟩ := hp.own u rfl
    have hroom : (terminated told).card < Wire.maxTerminalUtterances := hp.room u.utteranceId rfl
    obtain ⟨e₁, tail₁, h₁, he₁, rfl⟩ := encoded_cons he
    obtain ⟨e₂, tail₂, h₂, he₂, rfl⟩ := encoded_cons he₁
    obtain rfl := encoded_nil he₂
    rw [htable] at h₂
    obtain ⟨hheard, hcalm⟩ := hheard.report hcalm (by omega) hu hover
      (.inr ⟨_, _, _, _, rfl⟩) h₁
    have hdone := hheard.finish (by omega) hu hover hroom h₂ (.inl hcalm)
    rw [List.append_assoc] at hdone
    rw [HeardAll, terminated_concat, hframes fun _ => rfl]
    exact hdone
  | dropped u code asrMs mtMs ttsMs =>
    obtain ⟨hu, hover⟩ := hp.own u rfl
    have hroom : (terminated told).card < Wire.maxTerminalUtterances := hp.room u.utteranceId rfl
    obtain ⟨e₁, tail₁, h₁, he₁, rfl⟩ := encoded_cons he
    obtain ⟨e₂, tail₂, h₂, he₂, rfl⟩ := encoded_cons he₁
    obtain ⟨e₃, tail₃, h₃, he₃, rfl⟩ := encoded_cons he₂
    obtain rfl := encoded_nil he₃
    rw [htable] at h₃
    have hlatency : code = .noSpeech →
        Wire.atLast Wire.Event.recognisedOnly (wire ++ [e₁]) = some u.utteranceId := by
      rintro rfl
      obtain ⟨hasr, rfl, rfl, -⟩ := hp.silent u asrMs mtMs ttsMs rfl
      rw [Wire.atLast_concat]
      simp only [OpenProviderSession.eventToProto, Publication.latency,
        OpenProviderSession.bodyToProto, Option.bind_eq_bind, Option.bind_eq_some_iff,
        Option.some.injEq] at h₁
      obtain ⟨m, -, asr, hasr', mt, hmt, tts, htts, total, -, rfl⟩ := h₁
      obtain ⟨a, rfl⟩ := Option.isSome_iff_exists.mp hasr
      simp only [setOptional, Option.map_eq_some_iff, Option.some.injEq] at hasr' hmt htts
      obtain ⟨b, -, rfl⟩ := hasr'
      subst hmt htts
      rfl
    obtain ⟨hheard, hcalm⟩ := hheard.report hcalm (by omega) hu hover
      (.inr ⟨_, _, _, _, rfl⟩) h₁
    obtain ⟨hheard, howed⟩ := hheard.fail hcalm (by omega) hu hover hlatency h₂
    have hdone := hheard.finish (by omega) hu hover hroom h₃
      (.inr ⟨rfl, fun other x hx => (howed other x hx).1, fun x hx => by
        obtain rfl := (howed _ x hx).2 rfl
        exact (hp.silent u asrMs mtMs ttsMs rfl).2.2.2⟩)
    simp only [List.append_assoc, List.singleton_append] at hdone
    rw [HeardAll, terminated_concat, hframes fun _ => rfl]
    exact hdone
  | cancelled u =>
    obtain ⟨hu, hover⟩ := hp.own u rfl
    have hroom : (terminated told).card < Wire.maxTerminalUtterances := hp.room u.utteranceId rfl
    obtain ⟨e₁, tail₁, h₁, he₁, rfl⟩ := encoded_cons he
    obtain rfl := encoded_nil he₁
    rw [htable] at h₁
    have hdone := hheard.finish (by omega) hu hover hroom h₁ (.inl hcalm)
    rw [HeardAll, terminated_concat, hframes fun _ => rfl]
    exact hdone
  | session => exact absurd rfl hopen

/-- The close is lawful, too. -/
theorem HeardAll.close (h : HeardAll request stream told last wire) (hbase : last ≤ base)
    {table : Uuid → Option Nat}
    (he : (numbered base (Publication.session.bodies table nowNs)).mapM request.eventToProto
      = some encoded) : Wire.Lawful (request.contract stream) (wire ++ encoded) := by
  obtain ⟨hheard, hcalm⟩ := h
  obtain ⟨e₁, tail₁, h₁, he₁, rfl⟩ := encoded_cons he
  obtain rfl := encoded_nil he₁
  have hcoded := h₁
  simp only [OpenProviderSession.eventToProto, OpenProviderSession.bodyToProto,
    Option.bind_eq_bind, Option.bind_eq_some_iff, Option.some.injEq] at hcoded
  obtain ⟨m, -, rfl⟩ := hcoded
  exact atEach_concat hheard.lawful (hheard.encoded h₁ rfl (by omega)
    (by intro ref href; cases href) (by intro x hx; cases hx) (pays_of_calm hcalm _) trivial)

end Translator.Sidecar
