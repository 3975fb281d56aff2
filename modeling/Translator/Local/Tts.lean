import Translator.Schemes.Frames
import Mathlib.Data.BitVec

/-! `PiperTts._render_frames`: the chunks a voice speaks become frames of the negotiated format.

    The generator is a function of the state its locals make up. It is over when it returns or raises,
    and both leave the frames yielded so far. `is_cancelled` is asked again and again and answers by
    how often it was asked before; `soxr` is a parameter, a function of a state of its own. -/

namespace Translator.Local
open Schemes

/-- A sample of 16 bits. -/
abbrev Sample : Type := BitVec 16

/-- The bytes of a frame. -/
abbrev PcmBytes : Type := List UInt8

def maxOutputMs : Nat := 30000

inductive TtsError where
  | unavailable (message : String)
  | unsupported (message : String)
  | outputLimit (message : String)
  /-- The `ValueError` of `np.frombuffer`. -/
  | invalidBuffer
  deriving DecidableEq, Repr

/-- The output format, as `synthesize_frames` has checked it. -/
structure OutputFormat where
  sampleRateHz : Nat
  channels : Nat
  frameDurationMs : Nat
  rate_allowed : sampleRateHz = 16000 ∨ sampleRateHz = 24000 ∨ sampleRateHz = 48000
  channels_allowed : channels = 1 ∨ channels = 2
  duration_allowed : frameDurationMs = 20 ∨ frameDurationMs = 40 ∨ frameDurationMs = 60
    ∨ frameDurationMs = 80 ∨ frameDurationMs = 100

/-- The checks of the format in `synthesize_frames`. -/
def OutputFormat.check (sampleRateHz channels frameDurationMs : Nat) : Except TtsError OutputFormat :=
  if hrate : sampleRateHz = 16000 ∨ sampleRateHz = 24000 ∨ sampleRateHz = 48000 then
    if hchannels : channels = 1 ∨ channels = 2 then
      if hduration : frameDurationMs = 20 ∨ frameDurationMs = 40 ∨ frameDurationMs = 60
          ∨ frameDurationMs = 80 ∨ frameDurationMs = 100 then
        .ok ⟨sampleRateHz, channels, frameDurationMs, hrate, hchannels, hduration⟩
      else .error (.unsupported "TTS frame duration is unsupported")
    else .error (.unsupported "TTS output channel count is unsupported")
  else .error (.unsupported "TTS output sample rate is unsupported")

/-- What a voice speaks at a time. -/
structure AudioChunk where
  sampleWidth : Int
  sampleChannels : Int
  sampleRate : Int
  audioInt16Bytes : List UInt8
  deriving DecidableEq

/-- `soxr.ResampleStream`. -/
structure Resampler (σ : Type) where
  /-- `none` when the stream cannot be made. -/
  create : Int → Nat → Option σ
  resampleChunk : σ → List Sample → Bool → List Sample × σ

/-- `np.frombuffer(.., dtype="<i2")`. -/
def frombuffer : List UInt8 → Option (List Sample)
  | [] => some []
  | [_] => none
  | low :: high :: bytes =>
    (frombuffer bytes).map fun samples => BitVec.ofNat 16 (low.toNat + 256 * high.toNat) :: samples

/-- `astype("<i2").tobytes()`. -/
def tobytes (samples : List Sample) : PcmBytes :=
  samples.flatMap fun sample => [UInt8.ofNat sample.toNat, UInt8.ofNat (sample.toNat / 256)]

/-- `_encode_frame`; `np.repeat` doubles every sample. -/
def encodeFrame (samples : List Sample) (channels : Nat) : PcmBytes :=
  tobytes (if channels = 2 then samples.flatMap fun sample => [sample, sample] else samples)

/-- How a generator ends. -/
inductive Ending where
  | returned
  | raised (error : TtsError)
  deriving DecidableEq, Repr

/-- The locals of `_render_frames`, how often `is_cancelled` was asked, and what was yielded. -/
structure Rendering (σ : Type) where
  buffered : List Sample
  inputSampleRate : Option Int
  resampler : Option σ
  emittedMs : Nat
  polls : Nat
  frames : List PcmBytes

/-- A part of the generator: it goes on, or it is over. -/
abbrev Part := Except (List PcmBytes × Ending)

namespace OutputFormat

variable {σ : Type} (format : OutputFormat) (soxr : Resampler σ) (isCancelled : Nat → Bool)

def frameSamples : Nat := format.sampleRateHz * format.frameDurationMs / 1000

/-- `if is_cancelled(): return`. -/
def unlessCancelled (r : Rendering σ) (go : Rendering σ → Part (Rendering σ)) : Part (Rendering σ) :=
  if isCancelled r.polls then .error (r.frames, .returned) else go { r with polls := r.polls + 1 }

/-- `_check_output_limit` and the `yield` after it. -/
def yieldFrame (frame : List Sample) (r : Rendering σ) : Part (Rendering σ) :=
  if maxOutputMs < r.emittedMs + format.frameDurationMs then
    .error (r.frames, .raised (.outputLimit "local TTS output limit was reached"))
  else
    .ok { r with
      emittedMs := r.emittedMs + format.frameDurationMs
      frames := r.frames ++ [encodeFrame frame format.channels] }

/-- `while len(buffered) >= frame_samples`; every round takes samples, so the fuel is their number. -/
def drain : Nat → Rendering σ → Part (Rendering σ)
  | 0, r => .ok r
  | fuel + 1, r =>
    if format.frameSamples ≤ r.buffered.length then
      unlessCancelled isCancelled r fun r =>
        let frame := r.buffered.take format.frameSamples
        let r := { r with buffered := r.buffered.drop format.frameSamples }
        format.yieldFrame frame r >>= drain fuel
    else .ok r

/-- `np.concatenate((buffered, output))` and the loop after it. -/
def buffer (output : List Sample) (r : Rendering σ) : Part (Rendering σ) :=
  let buffered := r.buffered ++ output
  format.drain isCancelled buffered.length { r with buffered := buffered }

/-- One slice of a chunk. -/
def renderSlice (r : Rendering σ) (source : List Sample) : Part (Rendering σ) :=
  unlessCancelled isCancelled r fun r =>
    match r.resampler with
    | some state =>
      let (output, state) := soxr.resampleChunk state source false
      format.buffer isCancelled output { r with resampler := some state }
    | none => format.buffer isCancelled source r

/-- `samples[offset : offset + n] for offset in range(0, len(samples), n)`. -/
def slices (n : Nat) (samples : List Sample) : List (List Sample) :=
  (List.range ((samples.length + n - 1) / n)).map fun i => (samples.drop (i * n)).take n

/-- `max(1, input_sample_rate // 10)`. -/
def inputSliceSamples (inputSampleRate : Int) : Nat := max 1 (inputSampleRate / 10).toNat

def chunkUnavailable : TtsError := .unavailable "local TTS chunk is unavailable"

/-- The first chunk settles the sample rate, and whether there is a resampler. -/
def settleRate (chunk : AudioChunk) (r : Rendering σ) : Part (Rendering σ) :=
  match r.inputSampleRate with
  | none =>
    let r := { r with inputSampleRate := some chunk.sampleRate }
    if chunk.sampleRate ≠ format.sampleRateHz then
      match soxr.create chunk.sampleRate format.sampleRateHz with
      | none => .error (r.frames, .raised (.unavailable "local TTS is unavailable"))
      | some state => .ok { r with resampler := some state }
    else .ok r
  | some rate =>
    if chunk.sampleRate ≠ rate then .error (r.frames, .raised chunkUnavailable) else .ok r

def renderChunk (chunk : AudioChunk) (r : Rendering σ) : Part (Rendering σ) :=
  if chunk.sampleWidth ≠ 2 ∨ chunk.sampleChannels ≠ 1 ∨ chunk.sampleRate ≤ 0 then
    .error (r.frames, .raised chunkUnavailable)
  else do
    let r ← format.settleRate soxr chunk r
    match frombuffer chunk.audioInt16Bytes with
    | none => .error (r.frames, .raised .invalidBuffer)
    | some samples =>
      (slices (inputSliceSamples chunk.sampleRate) samples).foldlM
        (format.renderSlice soxr isCancelled) r

/-- `while not is_cancelled()`: a cancellation leaves the loop as the last chunk does. -/
def renderChunks : List AudioChunk → Rendering σ → Part (Rendering σ)
  | [], r => .ok { r with polls := r.polls + 1 }
  | chunk :: chunks, r =>
    let polled := { r with polls := r.polls + 1 }
    if isCancelled r.polls then .ok polled
    else format.renderChunk soxr isCancelled chunk polled >>= renderChunks chunks

/-- The end of the resampled stream. -/
def flush (r : Rendering σ) : Part (Rendering σ) :=
  match r.resampler with
  | none => .ok r
  | some state =>
    let (flushed, state) := soxr.resampleChunk state [] true
    format.buffer isCancelled flushed { r with resampler := some state }

/-- The last samples are padded with silence. -/
def padLast (r : Rendering σ) : Part (Rendering σ) :=
  if r.buffered.isEmpty then .ok r
  else
    unlessCancelled isCancelled r fun r =>
      format.yieldFrame (r.buffered ++ List.replicate (format.frameSamples - r.buffered.length) 0) r

/-- What follows the loop over the chunks. -/
def finish (r : Rendering σ) : Part (Rendering σ) :=
  unlessCancelled isCancelled r fun r =>
    format.flush soxr isCancelled r >>= format.padLast isCancelled

/-- `_render_frames`: the frames that are yielded, and how it ends. -/
def renderFrames (chunks : List AudioChunk) : List PcmBytes × Ending :=
  match format.renderChunks soxr isCancelled chunks ⟨[], none, none, 0, 0, []⟩ >>=
      format.finish soxr isCancelled with
  | .error stopped => stopped
  | .ok r => (r.frames, .returned)

end OutputFormat

end Translator.Local
