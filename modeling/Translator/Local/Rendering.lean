import Translator.Local.Tts

/-! What `_render_frames` makes of a whole utterance: the samples it was given, resampled or not, cut
    into frames, the last one padded, and never more than the limit; however the samples came, and
    with nothing but an end before its time when it is cancelled. -/

namespace Translator.Local
open Schemes

/-- The samples of a chunk. -/
def AudioChunk.samples (chunk : AudioChunk) : List Sample := (frombuffer chunk.audioInt16Bytes).getD []

/-- A chunk as a voice of one sample rate speaks it. -/
structure AudioChunk.Valid (rate : Int) (chunk : AudioChunk) : Prop where
  width : chunk.sampleWidth = 2
  channels : chunk.sampleChannels = 1
  positive : 0 < rate
  sampled : chunk.sampleRate = rate
  whole : (frombuffer chunk.audioInt16Bytes).isSome = true

namespace OutputFormat

variable {σ : Type} (format : OutputFormat) (soxr : Resampler σ)

/-- Nobody cancels. -/
def never : Nat → Bool := fun _ => false

/-- `is_cancelled` from some question on. -/
def cancelledFrom (point : Nat) : Nat → Bool := fun poll => decide (point ≤ poll)

def limitReached : TtsError := .outputLimit "local TTS output limit was reached"

/-- The samples that fit into the limit. -/
def maxOutputSamples : Nat := format.sampleRateHz * maxOutputMs / 1000

/-- The stream, with silence to the next frame boundary. -/
def padded (stream : List Sample) : List Sample :=
  stream ++ List.replicate ((format.frameSamples - stream.length % format.frameSamples) %
    format.frameSamples) 0

/-- A slice as it is, or resampled. -/
def pass : Option σ → List Sample → Bool → List Sample × Option σ
  | none, source, _ => (source, none)
  | some state, source, last =>
    ((soxr.resampleChunk state source last).1, some (soxr.resampleChunk state source last).2)

/-- One slice after the other. -/
def feed : Option σ → List (List Sample) → List Sample × Option σ
  | resampler, [] => ([], resampler)
  | resampler, source :: sources =>
    let passed := pass soxr resampler source false
    (passed.1 ++ (feed passed.2 sources).1, (feed passed.2 sources).2)

/-- The resampler of an utterance whose first chunk has this rate. -/
def resamplerFor (rate : Int) : Option σ :=
  if rate ≠ format.sampleRateHz then soxr.create rate format.sampleRateHz else none

/-- All the samples an utterance comes to, those the resampler gives at the end included. -/
def outputOf (rate : Int) (chunks : List AudioChunk) : List Sample :=
  if chunks.isEmpty then []
  else
    let sources := chunks.flatMap fun chunk => slices (inputSliceSamples rate) chunk.samples
    let fed := feed soxr (format.resamplerFor soxr rate) sources
    fed.1 ++ (pass soxr fed.2 [] true).1

/-- The frames are the stream, padded, or the part of it that fits into the limit. -/
def RendersTo (stream : List Sample) (result : List PcmBytes × Ending) : Prop :=
  ∃ blocks : List (List Sample), result.1 = blocks.map (encodeFrame · format.channels)
    ∧ (∀ block ∈ blocks, block.length = format.frameSamples)
    ∧ (∀ frame ∈ result.1, frame.length = format.frameSamples * format.channels * 2)
    ∧ ((format.padded stream).length ≤ format.maxOutputSamples
        ∧ blocks.flatten = format.padded stream ∧ result.2 = .returned
      ∨ format.maxOutputSamples < (format.padded stream).length
        ∧ blocks.flatten = (format.padded stream).take format.maxOutputSamples
        ∧ blocks.length * format.frameDurationMs = maxOutputMs ∧ result.2 = .raised limitReached)

variable {format} {soxr}

/-! ### Arithmetic of the format -/

theorem frameSamples_pos (format : OutputFormat) : 0 < format.frameSamples := by
  unfold frameSamples
  rcases format.rate_allowed with h | h | h <;>
    rcases format.duration_allowed with h' | h' | h' | h' | h' <;> rw [h, h'] <;> decide

/-- The limit is a whole number of frames, and comes to the samples that fit into it. -/
theorem limit_frames {count : Nat} (hwithin : count * format.frameDurationMs ≤ maxOutputMs)
    (hover : maxOutputMs < count * format.frameDurationMs + format.frameDurationMs) :
    count * format.frameDurationMs = maxOutputMs := by
  unfold maxOutputMs at hwithin hover ⊢
  rcases format.duration_allowed with h | h | h | h | h <;> rw [h] at hwithin hover ⊢ <;> omega

theorem limit_samples {count : Nat} (h : count * format.frameDurationMs = maxOutputMs) :
    count * format.frameSamples = format.maxOutputSamples := by
  unfold frameSamples maxOutputSamples
  rw [← h]
  rcases format.rate_allowed with hr | hr | hr <;>
    rcases format.duration_allowed with hd | hd | hd | hd | hd <;> rw [hr, hd] <;> omega

theorem within_samples {count : Nat} (h : count * format.frameDurationMs ≤ maxOutputMs) :
    count * format.frameSamples ≤ format.maxOutputSamples := by
  unfold maxOutputMs at h
  unfold frameSamples maxOutputSamples maxOutputMs
  rcases format.rate_allowed with hr | hr | hr <;>
    rcases format.duration_allowed with hd | hd | hd | hd | hd <;> rw [hd] at h <;> rw [hr, hd] <;> omega

theorem length_tobytes (samples : List Sample) : (tobytes samples).length = samples.length * 2 := by
  induction samples with
  | nil => rfl
  | cons sample samples ih =>
    rw [tobytes, List.flatMap_cons, List.length_append, ← tobytes, ih, List.length_cons]
    simp only [List.length_cons, List.length_nil]
    omega

theorem length_encodeFrame (format : OutputFormat) (samples : List Sample) :
    (encodeFrame samples format.channels).length = samples.length * format.channels * 2 := by
  unfold encodeFrame
  rw [length_tobytes]
  rcases format.channels_allowed with h | h
  · rw [h, if_neg (by decide), Nat.mul_one]
  · rw [h, if_pos rfl]
    refine congrArg (· * 2) ?_
    induction samples with
    | nil => rfl
    | cons sample samples ih =>
      rw [List.flatMap_cons, List.length_append, ih, List.length_cons]
      simp only [List.length_cons, List.length_nil]
      omega

/-! ### Without a cancellation -/

theorem unless_never (r : Rendering σ) (go : Rendering σ → Part (Rendering σ)) :
    unlessCancelled never r go = go { r with polls := r.polls + 1 } :=
  if_neg Bool.false_ne_true

/-- What was yielded is the head of the stream, frame by frame, and the buffer is the rest of it. -/
structure Holds (format : OutputFormat) (r : Rendering σ) (blocks : List (List Sample))
    (stream : List Sample) : Prop where
  frames : r.frames = blocks.map (encodeFrame · format.channels)
  emitted : r.emittedMs = blocks.length * format.frameDurationMs
  within : r.emittedMs ≤ maxOutputMs
  whole : ∀ block ∈ blocks, block.length = format.frameSamples
  joined : blocks.flatten ++ r.buffered = stream

/-- The frames fill the limit and the stream goes on. -/
def Overrun (format : OutputFormat) (frames : List PcmBytes) (stream : List Sample) : Prop :=
  ∃ blocks : List (List Sample), frames = blocks.map (encodeFrame · format.channels)
    ∧ (∀ block ∈ blocks, block.length = format.frameSamples)
    ∧ blocks.length * format.frameDurationMs = maxOutputMs
    ∧ blocks.flatten <+: stream ∧ blocks.flatten.length < stream.length

theorem Overrun.append {frames : List PcmBytes} {stream : List Sample}
    (h : Overrun format frames stream) (more : List Sample) : Overrun format frames (stream ++ more) := by
  obtain ⟨blocks, hframes, hwhole, hfull, hhead, hlonger⟩ := h
  refine ⟨blocks, hframes, hwhole, hfull, hhead.trans (List.prefix_append ..), ?_⟩
  rw [List.length_append]
  omega

/-- The part goes on with less than a frame in the buffer, or is over at the limit. -/
def Goes (format : OutputFormat) (part : Part (Rendering σ)) (stream : List Sample)
    (resampler : Option σ) (rate : Option Int) : Prop :=
  (∃ r blocks, part = .ok r ∧ Holds format r blocks stream ∧ r.buffered.length < format.frameSamples
      ∧ r.resampler = resampler ∧ r.inputSampleRate = rate)
    ∨ ∃ frames, part = .error (frames, .raised limitReached) ∧ Overrun format frames stream

variable {r : Rendering σ} {blocks : List (List Sample)} {stream : List Sample}

/-- A frame is yielded, or the limit is reached before it. -/
theorem yieldFrame_cases (format : OutputFormat) (blocks : List (List Sample)) (frame : List Sample)
    (r : Rendering σ) (hwithin : r.emittedMs ≤ maxOutputMs)
    (hemitted : r.emittedMs = blocks.length * format.frameDurationMs) :
    (format.yieldFrame frame r = .error (r.frames, .raised limitReached)
        ∧ blocks.length * format.frameDurationMs = maxOutputMs)
      ∨ ∃ r', format.yieldFrame frame r = .ok r' ∧ r'.emittedMs ≤ maxOutputMs
        ∧ r'.emittedMs = (blocks ++ [frame]).length * format.frameDurationMs
        ∧ r'.frames = r.frames ++ [encodeFrame frame format.channels] ∧ r'.buffered = r.buffered
        ∧ r'.resampler = r.resampler ∧ r'.inputSampleRate = r.inputSampleRate := by
  unfold yieldFrame
  split
  · next hover =>
    rw [hemitted] at hwithin hover
    exact .inl ⟨rfl, limit_frames hwithin hover⟩
  · next hroom =>
    refine .inr ⟨_, rfl, Nat.le_of_not_lt hroom, ?_, rfl, rfl, rfl, rfl⟩
    rw [List.length_append, List.length_singleton, Nat.succ_mul, ← hemitted]

theorem drain_goes (fuel : Nat) : ∀ {r : Rendering σ} {blocks : List (List Sample)},
    Holds format r blocks stream → r.buffered.length ≤ fuel →
      Goes format (format.drain never fuel r) stream r.resampler r.inputSampleRate := by
  have hpos := format.frameSamples_pos
  induction fuel with
  | zero =>
    intro r blocks h hfuel
    exact .inl ⟨r, blocks, rfl, h, by omega, rfl, rfl⟩
  | succ fuel ih =>
    intro r blocks h hfuel
    rw [drain]
    split
    case isFalse hshort => exact .inl ⟨r, blocks, rfl, h, Nat.lt_of_not_le hshort, rfl, rfl⟩
    next hfull =>
    have hframe : (r.buffered.take format.frameSamples).length = format.frameSamples :=
      List.length_take_of_le hfull
    rw [unless_never]
    rcases yieldFrame_cases format blocks (r.buffered.take format.frameSamples)
      { r with polls := r.polls + 1, buffered := r.buffered.drop format.frameSamples } h.within h.emitted with
      ⟨heq, hlimit⟩ | ⟨r', heq, hwithin, hemitted, hframes, hbuffered, hresampler, hrate⟩
    · refine .inr ⟨r.frames, ?_, blocks, h.frames, h.whole, hlimit, ?_, ?_⟩
      · dsimp only
        rw [heq]
        rfl
      · rw [← h.joined]
        exact List.prefix_append ..
      · rw [← h.joined, List.length_append]
        omega
    · dsimp only
      rw [heq]
      have hnext : Holds format r' (blocks ++ [r.buffered.take format.frameSamples]) stream := by
        refine ⟨?_, hemitted, hwithin, ?_, ?_⟩
        · rw [hframes, List.map_append, ← h.frames]
          rfl
        · intro block hmem
          rcases List.mem_append.mp hmem with hmem | hmem
          · exact h.whole block hmem
          · rw [List.mem_singleton.mp hmem]
            exact hframe
        · rw [hbuffered, List.flatten_append, List.flatten_singleton, List.append_assoc,
            List.take_append_drop, h.joined]
      have hless : r'.buffered.length ≤ fuel := by
        rw [hbuffered, List.length_drop]
        omega
      have := ih hnext hless
      rwa [hresampler, hrate] at this

theorem buffer_goes (h : Holds format r blocks stream) (output : List Sample) :
    Goes format (format.buffer never output r) (stream ++ output) r.resampler r.inputSampleRate := by
  have hlonger : Holds format { r with buffered := r.buffered ++ output } blocks (stream ++ output) :=
    ⟨h.frames, h.emitted, h.within, h.whole, by rw [← List.append_assoc, h.joined]⟩
  exact drain_goes _ hlonger (Nat.le_refl _)

/-- One slice. -/
theorem renderSlice_goes (h : Holds format r blocks stream) (source : List Sample) :
    Goes format (format.renderSlice soxr never r source)
      (stream ++ (pass soxr r.resampler source false).1) (pass soxr r.resampler source false).2
      r.inputSampleRate := by
  rw [renderSlice, unless_never]
  cases hresampler : r.resampler with
  | none =>
    have hpolled : Holds format { r with polls := r.polls + 1 } blocks stream :=
      ⟨h.frames, h.emitted, h.within, h.whole, h.joined⟩
    have := buffer_goes hpolled source
    rwa [hresampler] at this
  | some state =>
    exact buffer_goes (r := { r with
      polls := r.polls + 1
      resampler := some (soxr.resampleChunk state source false).2 })
      ⟨h.frames, h.emitted, h.within, h.whole, h.joined⟩ _

/-- What goes on is over at the limit if it was over before. -/
theorem Goes.bind {part : Part (Rendering σ)} {next : Rendering σ → Part (Rendering σ)} {more : List Sample}
    {resampler resampler' : Option σ} {rate rate' : Option Int}
    (h : Goes format part stream resampler rate)
    (hnext : ∀ r blocks, Holds format r blocks stream → r.buffered.length < format.frameSamples →
      r.resampler = resampler → r.inputSampleRate = rate →
        Goes format (next r) (stream ++ more) resampler' rate') :
    Goes format (part >>= next) (stream ++ more) resampler' rate' := by
  rcases h with ⟨r, blocks, rfl, hholds, hshort, hresampler, hrate⟩ | ⟨frames, rfl, hover⟩
  · exact hnext r blocks hholds hshort hresampler hrate
  · exact .inr ⟨frames, rfl, hover.append more⟩

theorem slices_go (sources : List (List Sample)) : ∀ {r : Rendering σ} {blocks : List (List Sample)}
    {stream : List Sample}, Holds format r blocks stream → r.buffered.length < format.frameSamples →
      Goes format (sources.foldlM (format.renderSlice soxr never) r)
        (stream ++ (feed soxr r.resampler sources).1) (feed soxr r.resampler sources).2
        r.inputSampleRate := by
  induction sources with
  | nil =>
    intro r blocks stream h hshort
    refine .inl ⟨r, blocks, rfl, ?_, hshort, rfl, rfl⟩
    rw [feed, List.append_nil]
    exact h
  | cons source sources ih =>
    intro r blocks stream h hshort
    rw [List.foldlM_cons, feed, ← List.append_assoc]
    refine (renderSlice_goes h source).bind fun r' blocks' hholds hshort' hresampler hrate => ?_
    dsimp only
    rw [← hresampler, ← hrate]
    exact ih hholds hshort'

theorem feed_append (resampler : Option σ) (sources more : List (List Sample)) :
    feed soxr resampler (sources ++ more)
      = ((feed soxr resampler sources).1 ++ (feed soxr (feed soxr resampler sources).2 more).1,
        (feed soxr (feed soxr resampler sources).2 more).2) := by
  induction sources generalizing resampler with
  | nil => simp [feed]
  | cons source sources ih =>
    rw [List.cons_append, feed, ih]
    simp only [feed, List.append_assoc]

/-- The slices of a chunk of this rate. -/
def sourcesOf (rate : Int) (chunk : AudioChunk) : List (List Sample) :=
  slices (inputSliceSamples rate) chunk.samples

/-- Once the rate is settled, a chunk is its slices. -/
theorem renderChunk_settled {rate : Int} {chunk : AudioChunk} (hvalid : chunk.Valid rate)
    (isCancelled : Nat → Bool) (hrate : r.inputSampleRate = some rate) :
    format.renderChunk soxr isCancelled chunk r
      = (sourcesOf rate chunk).foldlM (format.renderSlice soxr isCancelled) r := by
  obtain ⟨samples, hsamples⟩ := Option.isSome_iff_exists.mp hvalid.whole
  have hfields : ¬ (chunk.sampleWidth ≠ 2 ∨ chunk.sampleChannels ≠ 1 ∨ chunk.sampleRate ≤ 0) := by
    rw [hvalid.width, hvalid.channels, hvalid.sampled]
    have := hvalid.positive
    omega
  have hsettled : format.settleRate soxr chunk r = .ok r := by
    simp only [settleRate, hrate, hvalid.sampled, ne_eq, not_true_eq_false, if_false]
  rw [renderChunk, if_neg hfields, hsettled, sourcesOf, AudioChunk.samples, hsamples, ← hvalid.sampled]
  rfl

/-- The first chunk settles the rate. -/
theorem renderChunk_first {rate : Int} {chunk : AudioChunk} (hvalid : chunk.Valid rate)
    (isCancelled : Nat → Bool) (hcreate : ∀ i o, (soxr.create i o).isSome = true)
    (hrate : r.inputSampleRate = none) (hresampler : r.resampler = none) :
    format.renderChunk soxr isCancelled chunk r
      = format.renderChunk soxr isCancelled chunk
        { r with inputSampleRate := some rate, resampler := format.resamplerFor soxr rate } := by
  have hfirst : format.settleRate soxr chunk r = .ok
      { r with inputSampleRate := some rate, resampler := format.resamplerFor soxr rate } := by
    obtain ⟨state, hstate⟩ := Option.isSome_iff_exists.mp (hcreate rate format.sampleRateHz)
    simp only [settleRate, hrate, hvalid.sampled, resamplerFor, hstate]
    split
    · rfl
    · rw [← hresampler]
  have hagain : format.settleRate soxr chunk
      { r with inputSampleRate := some rate, resampler := format.resamplerFor soxr rate } = .ok
      { r with inputSampleRate := some rate, resampler := format.resamplerFor soxr rate } := by
    simp only [settleRate, hvalid.sampled, ne_eq, not_true_eq_false, if_false]
  unfold renderChunk
  rw [hfirst, hagain]

theorem chunks_go (soxr : Resampler σ) {rate : Int} (chunks : List AudioChunk) : ∀ {r : Rendering σ}
    {blocks : List (List Sample)} {stream : List Sample}, (∀ chunk ∈ chunks, chunk.Valid rate) →
      Holds format r blocks stream → r.buffered.length < format.frameSamples →
      r.inputSampleRate = some rate →
      Goes format (format.renderChunks soxr never chunks r)
        (stream ++ (feed soxr r.resampler (chunks.flatMap (sourcesOf rate))).1)
        (feed soxr r.resampler (chunks.flatMap (sourcesOf rate))).2 (some rate) := by
  induction chunks with
  | nil =>
    intro r blocks stream _ h hshort hrate
    refine .inl ⟨_, blocks, rfl, ?_, hshort, rfl, hrate⟩
    rw [List.flatMap_nil, feed, List.append_nil]
    exact ⟨h.frames, h.emitted, h.within, h.whole, h.joined⟩
  | cons chunk chunks ih =>
    intro r blocks stream hvalid h hshort hrate
    have hpolled : Holds format { r with polls := r.polls + 1 } blocks stream :=
      ⟨h.frames, h.emitted, h.within, h.whole, h.joined⟩
    have hchunk : format.renderChunk soxr never chunk { r with polls := r.polls + 1 }
        = (sourcesOf rate chunk).foldlM (format.renderSlice soxr never) { r with polls := r.polls + 1 } :=
      renderChunk_settled (hvalid chunk (List.mem_cons_self ..)) never hrate
    rw [renderChunks, never, if_neg (by decide), List.flatMap_cons, feed_append, ← List.append_assoc]
    refine Goes.bind (hchunk ▸ slices_go (sourcesOf rate chunk) hpolled hshort) fun r' blocks' hholds hshort' hresampler hrate' => ?_
    rw [← hresampler]
    exact ih (fun c hc => hvalid c (List.mem_cons_of_mem chunk hc)) hholds hshort' (hrate'.trans hrate)

theorem Holds.cut (h : Holds format r blocks stream) (hshort : r.buffered.length < format.frameSamples) :
    Cut format.frameSamples blocks r.buffered stream := ⟨h.whole, hshort, h.joined⟩

/-- What the padding adds is decided by the rest in the buffer. -/
theorem padded_eq (h : Cut format.frameSamples blocks r.buffered stream) :
    format.padded stream
      = stream ++ List.replicate ((format.frameSamples - r.buffered.length) % format.frameSamples) 0 := by
  have hmod : stream.length % format.frameSamples = r.buffered.length := by
    rw [h.length, Nat.add_comm, Nat.add_mul_mod_self_right, Nat.mod_eq_of_lt h.short]
  rw [padded, hmod]

/-- The part ends with the whole stream told, or is over at the limit. -/
def Ends (format : OutputFormat) (part : Part (Rendering σ)) (stream : List Sample) : Prop :=
  (∃ (r : Rendering σ) (blocks : List (List Sample)), part = .ok r
      ∧ r.frames = blocks.map (encodeFrame · format.channels) ∧ (∀ block ∈ blocks, block.length = format.frameSamples) ∧ blocks.flatten = format.padded stream
      ∧ blocks.length * format.frameDurationMs ≤ maxOutputMs)
    ∨ ∃ frames, part = .error (frames, .raised limitReached) ∧ Overrun format frames (format.padded stream)

theorem padLast_ends (h : Holds format r blocks stream)
    (hshort : r.buffered.length < format.frameSamples) :
    Ends format (format.padLast never r) stream := by
  have hpadded := padded_eq (h.cut hshort)
  unfold padLast
  split
  · next hempty =>
    rw [List.isEmpty_iff.mp hempty, List.length_nil, Nat.sub_zero, Nat.mod_self, List.replicate_zero,
      List.append_nil] at hpadded
    refine .inl ⟨r, blocks, rfl, h.frames, h.whole, ?_, h.emitted ▸ h.within⟩
    rw [hpadded, ← h.joined, List.isEmpty_iff.mp hempty, List.append_nil]
  · next hrest =>
    have hlength : 0 < r.buffered.length := List.length_pos_iff.mpr fun hnil => hrest (by rw [hnil]; rfl)
    rw [Nat.mod_eq_of_lt (by omega)] at hpadded
    have hlast : (r.buffered ++ List.replicate (format.frameSamples - r.buffered.length) 0).length
        = format.frameSamples := by
      rw [List.length_append, List.length_replicate]
      omega
    have hjoined : blocks.flatten
        ++ (r.buffered ++ List.replicate (format.frameSamples - r.buffered.length) 0)
        = format.padded stream := by
      rw [hpadded, ← List.append_assoc, h.joined]
    rw [unless_never]
    rcases yieldFrame_cases format blocks
      (r.buffered ++ List.replicate (format.frameSamples - r.buffered.length) 0)
      { r with polls := r.polls + 1 } h.within h.emitted with
      ⟨heq, hlimit⟩ | ⟨r', heq, hwithin, hemitted, hframes, -⟩
    · refine .inr ⟨r.frames, heq, blocks, h.frames, h.whole, hlimit, ?_, ?_⟩
      · rw [← hjoined]
        exact List.prefix_append ..
      · rw [← hjoined, List.length_append, hlast]
        have := format.frameSamples_pos
        omega
    · refine .inl ⟨r', _, heq, ?_, ?_, ?_, hemitted ▸ hwithin⟩
      · rw [hframes, List.map_append, ← h.frames]
        rfl
      · intro block hmem
        rcases List.mem_append.mp hmem with hmem | hmem
        · exact h.whole block hmem
        · rw [List.mem_singleton.mp hmem]
          exact hlast
      · rw [List.flatten_append, List.flatten_singleton, hjoined]

theorem flush_goes (soxr : Resampler σ) (h : Holds format r blocks stream) (hshort : r.buffered.length < format.frameSamples) :
    Goes format (format.flush soxr never r) (stream ++ (pass soxr r.resampler [] true).1)
      (pass soxr r.resampler [] true).2 r.inputSampleRate := by
  unfold flush
  cases hresampler : r.resampler with
  | none =>
    refine .inl ⟨r, blocks, rfl, ?_, hshort, hresampler, rfl⟩
    rw [pass, List.append_nil]
    exact h
  | some state =>
    exact buffer_goes (r := { r with resampler := some (soxr.resampleChunk state [] true).2 })
      ⟨h.frames, h.emitted, h.within, h.whole, h.joined⟩ _

theorem finish_ends (soxr : Resampler σ) (h : Holds format r blocks stream) (hshort : r.buffered.length < format.frameSamples) :
    Ends format (format.finish soxr never r) (stream ++ (pass soxr r.resampler [] true).1) := by
  have hpolled : Holds format { r with polls := r.polls + 1 } blocks stream :=
    ⟨h.frames, h.emitted, h.within, h.whole, h.joined⟩
  rw [finish, unless_never]
  rcases flush_goes soxr hpolled hshort with
    ⟨r', blocks', heq, hholds, hshort', -⟩ | ⟨frames, heq, hover⟩
  · rw [heq]
    exact padLast_ends hholds hshort'
  · rw [heq]
    exact .inr ⟨frames, rfl, hover.append _⟩

/-- The whole generator. -/
theorem renderFrames_ends (format : OutputFormat) {rate : Int} (chunks : List AudioChunk)
    (hvalid : ∀ chunk ∈ chunks, chunk.Valid rate) (hcreate : ∀ i o, (soxr.create i o).isSome = true) :
    Ends format (format.renderChunks soxr never chunks ⟨[], none, none, 0, 0, []⟩ >>=
      format.finish soxr never) (format.outputOf soxr rate chunks) := by
  have hstart : ∀ (inputRate : Option Int) (resampler : Option σ), Holds format
      (⟨[], inputRate, resampler, 0, 0, []⟩ : Rendering σ) [] [] :=
    fun _ _ => ⟨rfl, (Nat.zero_mul _).symm, Nat.zero_le _, by simp, rfl⟩
  cases chunks with
  | nil =>
    have h : Holds format (⟨[], none, none, 0, 1, []⟩ : Rendering σ) [] [] :=
      ⟨rfl, (Nat.zero_mul _).symm, Nat.zero_le _, by simp, rfl⟩
    exact finish_ends soxr h format.frameSamples_pos
  | cons chunk chunks =>
    have hfirst : format.renderChunks soxr never (chunk :: chunks) ⟨[], none, none, 0, 0, []⟩
        = format.renderChunks soxr never (chunk :: chunks)
          ⟨[], some rate, format.resamplerFor soxr rate, 0, 0, []⟩ := by
      simp only [renderChunks]
      rw [renderChunk_first (hvalid chunk (List.mem_cons_self ..)) never hcreate rfl rfl]
      rfl
    rw [hfirst, outputOf, if_neg (by simp)]
    rcases chunks_go soxr (chunk :: chunks) hvalid
      (hstart (some rate) (format.resamplerFor soxr rate)) format.frameSamples_pos rfl with
      ⟨r, blocks, heq, hholds, hshort, hresampler, -⟩ | ⟨frames, heq, hover⟩
    · rw [heq]
      have := finish_ends soxr hholds hshort
      rwa [hresampler] at this
    · rw [heq]
      exact .inr ⟨frames, rfl, (hover.append _).append _⟩

/-! ### With a cancellation -/

/-- The frames a part has yielded so far. -/
def framesIn : Part (Rendering σ) → List PcmBytes
  | .error (frames, _) => frames
  | .ok r => r.frames

/-- Frames are only added. -/
def Grows (f : Rendering σ → Part (Rendering σ)) : Prop := ∀ r, r.frames <+: framesIn (f r)

/-- What is cancelled goes as it would go, or is over before. -/
def Follows (part whole : Part (Rendering σ)) : Prop :=
  part = whole ∨ ∃ frames, part = .error (frames, .returned) ∧ frames <+: framesIn whole

variable {f g : Rendering σ → Part (Rendering σ)} {isCancelled : Nat → Bool}

theorem Grows.bind {part : Part (Rendering σ)} (hg : Grows g) : framesIn part <+: framesIn (part >>= g) := by
  cases part with
  | error stopped => exact List.prefix_refl _
  | ok r => exact hg r

theorem Follows.bind {part whole : Part (Rendering σ)} (h : Follows part whole)
    (hfollows : ∀ r, Follows (f r) (g r)) (hg : Grows g) : Follows (part >>= f) (whole >>= g) := by
  rcases h with rfl | ⟨frames, rfl, hhead⟩
  · cases part with
    | error stopped => exact .inl rfl
    | ok r => exact hfollows r
  · exact .inr ⟨frames, rfl, hhead.trans hg.bind⟩

theorem follows_refl (part : Part (Rendering σ)) : Follows part part := .inl rfl

theorem grows_unless (hg : Grows g) : Grows fun r => unlessCancelled never r g := by
  intro r
  simp only [unless_never]
  exact hg { r with polls := r.polls + 1 }

theorem follows_unless (hfollows : ∀ r, Follows (f r) (g r)) (hg : Grows g) (r : Rendering σ) :
    Follows (unlessCancelled isCancelled r f) (unlessCancelled never r g) := by
  rw [unless_never]
  by_cases hcancelled : isCancelled r.polls = true
  · exact .inr ⟨r.frames, if_pos hcancelled, hg { r with polls := r.polls + 1 }⟩
  · rw [unlessCancelled, if_neg hcancelled]
    exact hfollows _

theorem yieldFrame_grows (frame : List Sample) : Grows (format.yieldFrame (σ := σ) frame) := by
  intro r
  unfold yieldFrame
  split
  · exact List.prefix_refl _
  · exact List.prefix_append ..

theorem drain_grows (fuel : Nat) : Grows (format.drain (σ := σ) never fuel) := by
  induction fuel with
  | zero => exact fun r => List.prefix_refl _
  | succ fuel ih =>
    intro r
    rw [drain]
    split
    · rw [unless_never]
      exact (yieldFrame_grows _ { r with
        polls := r.polls + 1
        buffered := r.buffered.drop format.frameSamples }).trans ih.bind
    · exact List.prefix_refl _

theorem drain_follows (fuel : Nat) : ∀ r : Rendering σ,
    Follows (format.drain isCancelled fuel r) (format.drain never fuel r) := by
  induction fuel with
  | zero => exact fun r => follows_refl _
  | succ fuel ih =>
    intro r
    rw [drain, drain]
    split
    · exact follows_unless (fun r => (follows_refl _).bind ih (drain_grows fuel))
        (fun r => (yieldFrame_grows _ { r with buffered := r.buffered.drop format.frameSamples }).trans
          (drain_grows fuel).bind) r
    · exact follows_refl _

theorem buffer_grows (output : List Sample) : Grows (format.buffer (σ := σ) never output) :=
  fun r => drain_grows _ { r with buffered := r.buffered ++ output }

theorem renderSlice_grows (source : List Sample) :
    Grows fun r => format.renderSlice soxr never r source := by
  intro r
  unfold renderSlice
  refine grows_unless (fun r => ?_) r
  split
  · next state _ =>
    exact buffer_grows _ { r with resampler := some (soxr.resampleChunk state source false).2 }
  · exact buffer_grows _ r

theorem renderSlice_follows (r : Rendering σ) (source : List Sample) :
    Follows (format.renderSlice soxr isCancelled r source) (format.renderSlice soxr never r source) := by
  unfold renderSlice
  refine follows_unless (fun r => ?_) (fun r => ?_) r
  · split
    · exact drain_follows _ _
    · exact drain_follows _ _
  · split
    · next state _ =>
      exact buffer_grows _ { r with resampler := some (soxr.resampleChunk state source false).2 }
    · exact buffer_grows _ r

theorem slices_grow (sources : List (List Sample)) :
    Grows fun r => sources.foldlM (format.renderSlice soxr never) r := by
  induction sources with
  | nil => exact fun r => List.prefix_refl _
  | cons source sources ih =>
    intro r
    simp only [List.foldlM_cons]
    exact (renderSlice_grows source r).trans ih.bind

theorem slices_follow (sources : List (List Sample)) : ∀ r : Rendering σ,
    Follows (sources.foldlM (format.renderSlice soxr isCancelled) r)
      (sources.foldlM (format.renderSlice soxr never) r) := by
  induction sources with
  | nil => exact fun r => follows_refl _
  | cons source sources ih =>
    intro r
    rw [List.foldlM_cons, List.foldlM_cons]
    exact (renderSlice_follows r source).bind ih (slices_grow sources)

theorem settleRate_grows (soxr : Resampler σ) (chunk : AudioChunk) : Grows (format.settleRate soxr chunk) := by
  intro r
  unfold settleRate
  dsimp only
  repeat' split
  all_goals exact List.prefix_refl _

theorem renderChunk_grows (chunk : AudioChunk) : Grows (format.renderChunk soxr never chunk) := by
  intro r
  unfold renderChunk
  split
  · exact List.prefix_refl _
  · refine (settleRate_grows soxr chunk r).trans (Grows.bind fun r => ?_)
    split
    · exact List.prefix_refl _
    · exact slices_grow _ r

theorem renderChunk_follows (chunk : AudioChunk) (r : Rendering σ) :
    Follows (format.renderChunk soxr isCancelled chunk r) (format.renderChunk soxr never chunk r) := by
  unfold renderChunk
  split
  · exact follows_refl _
  · refine (follows_refl _).bind (fun r => ?_) (fun r => ?_)
    · split
      · exact follows_refl _
      · exact slices_follow _ r
    · split
      · exact List.prefix_refl _
      · exact slices_grow _ r

theorem padLast_grows : Grows (format.padLast (σ := σ) never) := by
  intro r
  unfold padLast
  split
  · exact List.prefix_refl _
  · exact yieldFrame_grows _ { r with polls := r.polls + 1 }

theorem flush_grows : Grows (format.flush soxr never) := by
  intro r
  unfold flush
  split
  · exact List.prefix_refl _
  · next state _ => exact buffer_grows _ { r with resampler := some (soxr.resampleChunk state [] true).2 }

theorem finish_grows : Grows (format.finish soxr never) := by
  intro r
  exact grows_unless (fun r => (flush_grows r).trans padLast_grows.bind) r

theorem finish_follows (r : Rendering σ) :
    Follows (format.finish soxr isCancelled r) (format.finish soxr never r) := by
  refine follows_unless (fun r => ?_) (fun r => (flush_grows r).trans padLast_grows.bind) r
  refine Follows.bind ?_ (fun r => ?_) padLast_grows
  · unfold flush
    split
    · exact follows_refl _
    · exact drain_follows _ _
  · unfold padLast
    split
    · exact follows_refl _
    · exact follows_unless (fun r => follows_refl _) (fun r => yieldFrame_grows _ r) r

theorem renderChunks_grows (chunks : List AudioChunk) :
    Grows fun r => format.renderChunks soxr never chunks r >>= format.finish soxr never := by
  induction chunks with
  | nil => exact fun r => finish_grows { r with polls := r.polls + 1 }
  | cons chunk chunks ih =>
    intro r
    simp only [renderChunks, never, Bool.false_eq_true, if_false, bind_assoc]
    exact (renderChunk_grows chunk { r with polls := r.polls + 1 }).trans ih.bind

/-- A cancellation in the loop over the chunks is met again behind it. -/
theorem renderChunks_follows (format : OutputFormat) (soxr : Resampler σ) (point : Nat) (chunks : List AudioChunk) : ∀ r : Rendering σ,
    Follows (format.renderChunks soxr (cancelledFrom point) chunks r >>=
        format.finish soxr (cancelledFrom point))
      (format.renderChunks soxr never chunks r >>= format.finish soxr never) := by
  induction chunks with
  | nil => exact fun r => finish_follows _
  | cons chunk chunks ih =>
    intro r
    rw [renderChunks]
    split
    · next hcancelled =>
      have hlater : cancelledFrom point (r.polls + 1) = true := by
        simp only [cancelledFrom, decide_eq_true_eq] at hcancelled ⊢
        omega
      refine .inr ⟨r.frames, ?_, renderChunks_grows (chunk :: chunks) r⟩
      change format.finish soxr (cancelledFrom point) { r with polls := r.polls + 1 } = _
      rw [finish, unlessCancelled, if_pos hlater]
    · simp only [renderChunks, never, Bool.false_eq_true, if_false, bind_assoc]
      exact (renderChunk_follows chunk _).bind ih (renderChunks_grows chunks)

/-! ### Every utterance -/

theorem length_blocks {blocks : List (List Sample)}
    (hwhole : ∀ block ∈ blocks, block.length = format.frameSamples) :
    blocks.flatten.length = blocks.length * format.frameSamples := by
  have hcut : Cut format.frameSamples blocks [] blocks.flatten :=
    ⟨hwhole, format.frameSamples_pos, List.append_nil _⟩
  exact hcut.length

theorem length_frames {blocks : List (List Sample)}
    (hwhole : ∀ block ∈ blocks, block.length = format.frameSamples) :
    ∀ frame ∈ blocks.map (encodeFrame · format.channels),
      frame.length = format.frameSamples * format.channels * 2 := by
  intro frame hframe
  obtain ⟨block, hblock, rfl⟩ := List.mem_map.mp hframe
  rw [length_encodeFrame, hwhole block hblock]

theorem rendersTo_renderFrames {rate : Int} (chunks : List AudioChunk)
    (hvalid : ∀ chunk ∈ chunks, chunk.Valid rate) (hcreate : ∀ i o, (soxr.create i o).isSome = true) :
    format.RendersTo (format.outputOf soxr rate chunks) (format.renderFrames soxr never chunks) := by
  unfold renderFrames
  rcases renderFrames_ends format chunks hvalid hcreate with
    ⟨r, blocks, heq, hframes, hwhole, hflatten, hwithin⟩ |
    ⟨frames, heq, blocks, hframes, hwhole, hlimit, hhead, hlonger⟩
  · rw [heq]
    refine ⟨blocks, hframes, hwhole, ?_, .inl ⟨?_, hflatten, rfl⟩⟩
    · dsimp only
      rw [hframes]
      exact length_frames hwhole
    rw [← hflatten, length_blocks hwhole]
    exact within_samples hwithin
  · rw [heq]
    have hlength : blocks.flatten.length = format.maxOutputSamples := by
      rw [length_blocks hwhole, limit_samples hlimit]
    refine ⟨blocks, hframes, hwhole, ?_, .inr ⟨hlength ▸ hlonger, ?_, hlimit, rfl⟩⟩
    · dsimp only
      rw [hframes]
      exact length_frames hwhole
    rw [← hlength]
    exact List.prefix_iff_eq_take.mp hhead

/-- A stream is rendered in one way. -/
theorem rendersTo_unique {result result' : List PcmBytes × Ending}
    (h : format.RendersTo stream result) (h' : format.RendersTo stream result') : result = result' := by
  obtain ⟨blocks, hframes, hwhole, -, hend⟩ := h
  obtain ⟨blocks', hframes', hwhole', -, hend'⟩ := h'
  have hblocks : blocks.flatten = blocks'.flatten → blocks = blocks' := by
    intro hflatten
    have hcut : Cut format.frameSamples blocks [] blocks.flatten :=
      ⟨hwhole, format.frameSamples_pos, List.append_nil _⟩
    have hcut' : Cut format.frameSamples blocks' [] blocks.flatten :=
      ⟨hwhole', format.frameSamples_pos, by rw [List.append_nil, hflatten]⟩
    rw [hcut.unique.1, hcut'.unique.1]
  rcases hend with ⟨hfits, hflatten, hreturned⟩ | ⟨hover, hflatten, -, hraised⟩
  · rcases hend' with ⟨-, hflatten', hreturned'⟩ | ⟨hover', -⟩
    · exact Prod.ext (by rw [hframes, hframes', hblocks (hflatten.trans hflatten'.symm)])
        (hreturned.trans hreturned'.symm)
    · exact absurd hfits (Nat.not_le.mpr hover')
  · rcases hend' with ⟨hfits', -⟩ | ⟨-, hflatten', -, hraised'⟩
    · exact absurd hfits' (Nat.not_le.mpr hover)
    · exact Prod.ext (by rw [hframes, hframes', hblocks (hflatten.trans hflatten'.symm)])
        (hraised.trans hraised'.symm)

theorem slices_cons {n : Nat} (hn : 0 < n) {samples : List Sample} (hsome : samples ≠ []) :
    slices n samples = samples.take n :: slices n (samples.drop n) := by
  have hlength : 0 < samples.length := List.length_pos_iff.mpr hsome
  have hcount : (samples.length + n - 1) / n = (samples.length - n + n - 1) / n + 1 := by
    by_cases hmore : n ≤ samples.length
    · have hsplit : samples.length + n - 1 = samples.length - n + n - 1 + n := by omega
      rw [hsplit, Nat.add_div_right _ hn]
    · have hone : samples.length + n - 1 = samples.length - 1 + n := by omega
      have hzero : samples.length - n + n - 1 = n - 1 := by omega
      rw [hone, hzero, Nat.add_div_right _ hn, Nat.div_eq_of_lt (by omega), Nat.div_eq_of_lt (by omega)]
  rw [slices, hcount, List.range_succ_eq_map, List.map_cons, List.map_map, slices, List.length_drop]
  refine congrArg₂ List.cons (by rw [Nat.zero_mul, List.drop_zero]) (List.map_congr_left fun i _ => ?_)
  rw [Function.comp_apply, List.drop_drop, Nat.succ_mul, Nat.add_comm]

/-- The slices are the samples, cut. -/
theorem flatten_slices {n : Nat} (hn : 0 < n) (samples : List Sample) :
    (slices n samples).flatten = samples := by
  by_cases hsome : samples = []
  · rw [hsome, slices, List.length_nil, Nat.zero_add, Nat.div_eq_of_lt (by omega)]
    rfl
  · have hfewer : (samples.drop n).length < samples.length := by
      have := List.length_pos_iff.mpr hsome
      rw [List.length_drop]
      omega
    rw [slices_cons hn hsome, List.flatten_cons, flatten_slices hn (samples.drop n),
      List.take_append_drop]
termination_by samples.length

theorem feed_none (sources : List (List Sample)) : feed soxr none sources = (sources.flatten, none) := by
  induction sources with
  | nil => rfl
  | cons source sources ih => rw [feed, pass, ih, List.flatten_cons]

/-- Without a resampler the output is what the voice spoke. -/
theorem outputOf_identical (soxr : Resampler σ) {rate : Int} (hrate : rate = format.sampleRateHz) (chunks : List AudioChunk) :
    format.outputOf soxr rate chunks = chunks.flatMap AudioChunk.samples := by
  have hpos : 0 < inputSliceSamples rate := Nat.lt_of_lt_of_le Nat.zero_lt_one (Nat.le_max_left ..)
  have hslices : ∀ chunks : List AudioChunk, (chunks.flatMap fun chunk =>
      slices (inputSliceSamples rate) chunk.samples).flatten = chunks.flatMap AudioChunk.samples := by
    intro chunks
    induction chunks with
    | nil => rfl
    | cons chunk chunks ih =>
      rw [List.flatMap_cons, List.flatten_append, ih, flatten_slices hpos, List.flatMap_cons]
  unfold outputOf
  split
  · next hnone => rw [List.isEmpty_iff.mp hnone, List.flatMap_nil]
  · rw [resamplerFor, if_neg (by rw [hrate]; simp)]
    dsimp only
    rw [feed_none, pass, List.append_nil, hslices]

/-- For every resampler and every utterance spoken in one sample rate: undisturbed, the frames are the
    whole output, padded, or the first 30 seconds of it and the error of the limit; without a resampler
    it does not matter how the samples came in chunks; and cancelled at any point, what was yielded is
    the head of what would have been. -/
theorem renderFrames_renders (format : OutputFormat) (create : Int → Nat → σ)
    (resampleChunk : σ → List Sample → Bool → List Sample × σ) (rate : Int) (chunks : List AudioChunk)
    (hvalid : ∀ chunk ∈ chunks, chunk.Valid rate) :
    let soxr : Resampler σ := ⟨fun i o => some (create i o), resampleChunk⟩
    format.RendersTo (format.outputOf soxr rate chunks) (format.renderFrames soxr never chunks)
      ∧ (rate = format.sampleRateHz →
        format.outputOf soxr rate chunks = chunks.flatMap AudioChunk.samples
          ∧ ∀ chunks', (∀ chunk ∈ chunks', chunk.Valid rate) →
            chunks'.flatMap AudioChunk.samples = chunks.flatMap AudioChunk.samples →
              format.renderFrames soxr never chunks' = format.renderFrames soxr never chunks)
      ∧ ∀ point, (format.renderFrames soxr (cancelledFrom point) chunks).1
        <+: (format.renderFrames soxr never chunks).1 := by
  intro soxr
  have hrenders : ∀ chunks, (∀ chunk ∈ chunks, chunk.Valid rate) → format.RendersTo
      (format.outputOf soxr rate chunks) (format.renderFrames soxr never chunks) :=
    fun chunks hvalid => rendersTo_renderFrames chunks hvalid fun _ _ => rfl
  refine ⟨hrenders chunks hvalid, fun hrate => ⟨outputOf_identical soxr hrate chunks,
    fun chunks' hvalid' hsame => ?_⟩, fun point => ?_⟩
  · refine rendersTo_unique (hrenders chunks' hvalid') ?_
    rw [outputOf_identical soxr hrate, hsame, ← outputOf_identical soxr hrate]
    exact hrenders chunks hvalid
  · have hfollows := renderChunks_follows format soxr point chunks
      ⟨[], none, none, 0, 0, []⟩
    unfold renderFrames
    rcases hfollows with heq | ⟨frames, heq, hhead⟩
    · rw [heq]
    · rw [heq]
      refine hhead.trans ?_
      cases format.renderChunks soxr never chunks ⟨[], none, none, 0, 0, []⟩ >>= format.finish soxr never with
      | error stopped => exact List.prefix_refl _
      | ok r => exact List.prefix_refl _

/-- Mono frames of 20 ms at 16 kHz. -/
def sampleFormat : OutputFormat := ⟨16000, 1, 20, by decide, by decide, by decide⟩

/-- Two samples at 8 kHz. -/
def sampleChunk : AudioChunk := ⟨2, 1, 8000, [1, 0, 2, 0]⟩

/-- A resampler that gives every sample twice, and one sample more at the end. -/
theorem renderFrames_doubled :
    (sampleFormat.renderFrames (σ := Unit) ⟨fun _ _ => some (), fun _ source last =>
        (if last then [3] else source.flatMap fun sample => [sample, sample], ())⟩ never [sampleChunk]).1
      = [tobytes ([1, 1, 2, 2, 3] ++ List.replicate 315 0)]
    ∧ sampleFormat.RendersTo (sampleFormat.outputOf (σ := Unit) ⟨fun _ _ => some (), fun _ source last =>
        (if last then [3] else source.flatMap fun sample => [sample, sample], ())⟩ 8000 [sampleChunk])
      (sampleFormat.renderFrames (σ := Unit) ⟨fun _ _ => some (), fun _ source last =>
        (if last then [3] else source.flatMap fun sample => [sample, sample], ())⟩ never [sampleChunk]) := by
  refine ⟨by decide +kernel, (renderFrames_renders sampleFormat (fun _ _ => ()) _ 8000 [sampleChunk] ?_).1⟩
  intro chunk hmem
  rw [List.mem_singleton.mp hmem]
  exact ⟨rfl, rfl, by decide, rfl, rfl⟩

end OutputFormat

end Translator.Local
