import Mathlib.Logic.Equiv.Basic
import Translator.Control.RoundTrip
import Translator.Schemes.Blocks

/-! `ExactPcmEvidence`: two running digests, one over the frames that were captured and one over those
    that were put back. A digest is fed the number of a frame and its samples, so that with a digest
    without collisions the two agree for equal lists of frames only. -/

namespace Translator.Control
open Core Schemes

/-! ### Bytes -/

/-- `u64::to_le_bytes`. -/
def toLeBytes (value : UInt64) : List UInt8 :=
  (List.range 8).map fun i => UInt8.ofNat (value.toNat / 256 ^ i % 256)

theorem toLeBytes_length (value : UInt64) : (toLeBytes value).length = 8 := by
  simp [toLeBytes]

/-- A number is known by its bytes. -/
theorem eq_of_bytes {n a b : Nat} (ha : a < 256 ^ n) (hb : b < 256 ^ n)
    (h : ∀ i < n, a / 256 ^ i % 256 = b / 256 ^ i % 256) : a = b := by
  induction n generalizing a b with
  | zero => omega
  | succ n ih =>
    have hlow : a % 256 = b % 256 := by simpa using h 0 (by omega)
    have hhigh : a / 256 = b / 256 := by
      refine ih (by omega) (by omega) fun i hi => ?_
      rw [Nat.div_div_eq_div_mul, Nat.div_div_eq_div_mul, Nat.mul_comm, ← Nat.pow_succ]
      exact h (i + 1) (by omega)
    omega

theorem toLeBytes_injective : Function.Injective toLeBytes := by
  intro a b heq
  refine UInt64.toNat.inj (eq_of_bytes (n := 8) a.toNat_lt b.toNat_lt fun i hi => ?_)
  have hbyte := congrArg UInt8.toNat ((List.map_inj_left.mp heq) i (List.mem_range.mpr hi))
  simpa using hbyte

/-- Two lower case hexadecimal digits. -/
def hexByte (byte : UInt8) : List Char :=
  [Nat.digitChar (byte.toNat / 16), Nat.digitChar (byte.toNat % 16)]

theorem hexByte_injective : Function.Injective hexByte := by
  have hdigit : ∀ a < 16, ∀ b < 16, Nat.digitChar a = Nat.digitChar b → a = b := by decide
  intro a b heq
  have ha := a.toNat_lt
  have hb := b.toNat_lt
  have hhigh := hdigit _ (by omega) _ (by omega) (List.cons.inj heq).1
  have hlow := hdigit _ (by omega) _ (by omega) (List.cons.inj (List.cons.inj heq).2).1
  apply UInt8.toNat.inj
  omega

def digestHex (digest : List UInt8) : String :=
  String.ofList (digest.flatMap hexByte)

theorem digestHex_injective : Function.Injective digestHex := by
  intro a b heq
  have hlist : a.flatMap hexByte = b.flatMap hexByte := String.ofList_injective heq
  exact flatMap_injective (n := 2) (by decide) (fun _ => rfl) hexByte_injective hlist

/-! ### The evidence -/

inductive ExactPcmEvidenceError where | formatMismatch | sequenceMismatch
  deriving DecidableEq, Repr

/-- A hash is the bytes it has been fed. -/
structure ExactPcmEvidence where
  format : StreamPcmFormat
  capturedCount : Nat
  reinjectedCount : Nat
  capturedHash : List UInt8
  reinjectedHash : List UInt8
  formatMatches : Bool
  sequenceMonotonic : Bool
  deriving DecidableEq, Repr

namespace ExactPcmEvidence

def new (format : StreamPcmFormat) : ExactPcmEvidence :=
  ⟨format, 0, 0, [], [], true, true⟩

/-- What `record` changes through its references. -/
structure Track where
  count : Nat
  hash : List UInt8
  formatMatches : Bool
  sequenceMonotonic : Bool
  deriving DecidableEq, Repr

def record (format : StreamPcmFormat) (frame : PcmFrame) (track : Track) :
    Except ExactPcmEvidenceError Unit × Track :=
  if frame.format ≠ format then (.error .formatMismatch, { track with formatMatches := false })
  else if frame.sequence.toNat ≠ track.count then
    (.error .sequenceMismatch, { track with sequenceMonotonic := false })
  else
    (.ok (), { track with
      hash := track.hash ++ toLeBytes frame.sequence ++ frame.pcm
      count := saturatingAdd track.count 1 })

variable (evidence : ExactPcmEvidence)

def capture (frame : PcmFrame) : Except ExactPcmEvidenceError Unit × ExactPcmEvidence :=
  let (result, track) := record evidence.format frame
    ⟨evidence.capturedCount, evidence.capturedHash, evidence.formatMatches, evidence.sequenceMonotonic⟩
  (result, { evidence with
    capturedCount := track.count
    capturedHash := track.hash
    formatMatches := track.formatMatches
    sequenceMonotonic := track.sequenceMonotonic })

def reinject (frame : PcmFrame) : Except ExactPcmEvidenceError Unit × ExactPcmEvidence :=
  let (result, track) := record evidence.format frame
    ⟨evidence.reinjectedCount, evidence.reinjectedHash, evidence.formatMatches,
      evidence.sequenceMonotonic⟩
  (result, { evidence with
    reinjectedCount := track.count
    reinjectedHash := track.hash
    formatMatches := track.formatMatches
    sequenceMonotonic := track.sequenceMonotonic })

/-- `proof`, with the digest function it goes by. -/
def proof (sha256 : List UInt8 → List UInt8) : ExactPcmProof :=
  let capturedRollingHash := digestHex (sha256 evidence.capturedHash)
  let reinjectedRollingHash := digestHex (sha256 evidence.reinjectedHash)
  let countsMatch := evidence.capturedCount == evidence.reinjectedCount
  { sampleRateHz := evidence.format.sampleRateHz
    channels := evidence.format.channels
    frameDurationMs := evidence.format.frameDurationMs
    frameCount := evidence.capturedCount
    capturedFrameCount := evidence.capturedCount
    reinjectedFrameCount := evidence.reinjectedCount
    firstSequence := if evidence.capturedCount > 0 then some 0 else none
    lastSequence := if evidence.capturedCount = 0 then none else some (evidence.capturedCount - 1)
    capturedRollingHash
    reinjectedRollingHash
    formatMatches := evidence.formatMatches
    sequenceMonotonic := evidence.sequenceMonotonic
    exactMatch := decide (evidence.capturedCount > 0) && countsMatch && evidence.formatMatches
      && evidence.sequenceMonotonic && capturedRollingHash == reinjectedRollingHash }

inductive Call where
  | capture (frame : PcmFrame)
  | reinject (frame : PcmFrame)
  deriving DecidableEq, Repr

def apply : Call → Except ExactPcmEvidenceError Unit × ExactPcmEvidence
  | .capture frame => evidence.capture frame
  | .reinject frame => evidence.reinject frame

/-- The frames of the `capture` calls, in order. -/
def captured (calls : List Call) : List PcmFrame :=
  calls.filterMap fun
    | .capture frame => some frame
    | .reinject _ => none

/-- The frames of the `reinject` calls, in order. -/
def reinjected (calls : List Call) : List PcmFrame :=
  calls.filterMap fun
    | .capture _ => none
    | .reinject frame => some frame

@[simp] theorem captured_capture (calls : List Call) (frame : PcmFrame) :
    captured (calls ++ [.capture frame]) = captured calls ++ [frame] := by
  simp [captured]

@[simp] theorem captured_reinject (calls : List Call) (frame : PcmFrame) :
    captured (calls ++ [.reinject frame]) = captured calls := by
  simp [captured]

@[simp] theorem reinjected_capture (calls : List Call) (frame : PcmFrame) :
    reinjected (calls ++ [.capture frame]) = reinjected calls := by
  simp [reinjected]

@[simp] theorem reinjected_reinject (calls : List Call) (frame : PcmFrame) :
    reinjected (calls ++ [.reinject frame]) = reinjected calls ++ [frame] := by
  simp [reinjected]

/-! ### What the counters and the hashes say -/

/-- The frames are numbered from 0 on; past the end of `u64` the number stays where it is. -/
def Numbered (frames : List PcmFrame) : Prop :=
  ∀ i frame, frames[i]? = some frame → frame.sequence.toNat = min i u64Max

/-- What a frame adds to a hash. -/
def bytes (frame : PcmFrame) : List UInt8 := toLeBytes frame.sequence ++ frame.pcm

/-- What of a frame is to be the same on both sides. -/
def content (frame : PcmFrame) : UInt64 × List UInt8 := (frame.sequence, frame.pcm)

/-- A counter and a hash that account for the frames. -/
structure Tells (format : StreamPcmFormat) (frames : List PcmFrame) (count : Nat)
    (hash : List UInt8) : Prop where
  formats : ∀ frame ∈ frames, frame.format = format
  numbered : Numbered frames
  counts : count = min frames.length u64Max
  hashes : hash = frames.flatMap bytes

theorem tells_nil (format : StreamPcmFormat) : Tells format [] 0 [] where
  formats := by intro frame h; cases h
  numbered := by intro i frame h; simp at h
  counts := by simp
  hashes := rfl

/-- An accepted frame is the next of its side. -/
theorem tells_concat {format : StreamPcmFormat} {frames : List PcmFrame} {count : Nat}
    {hash : List UInt8} {frame : PcmFrame} (h : Tells format frames count hash)
    (hformat : frame.format = format) (hsequence : frame.sequence.toNat = count) :
    Tells format (frames ++ [frame]) (saturatingAdd count 1)
      (hash ++ toLeBytes frame.sequence ++ frame.pcm) where
  formats := by
    intro f hf
    rcases List.mem_append.mp hf with hf | hf
    · exact h.formats f hf
    · rw [List.mem_singleton.mp hf]
      exact hformat
  numbered := by
    intro i f hf
    rcases Nat.lt_trichotomy i frames.length with hlt | heq | hgt
    · rw [List.getElem?_append_left hlt] at hf
      exact h.numbered i f hf
    · subst heq
      rw [List.getElem?_concat_length] at hf
      obtain rfl := Option.some.inj hf
      rw [hsequence, h.counts]
    · rw [List.getElem?_eq_none (by simp; omega)] at hf
      cases hf
  counts := by
    have hcount := h.counts
    simp only [saturatingAdd, List.length_append, List.length_singleton]
    omega
  hashes := by
    rw [List.flatMap_append, ← h.hashes, List.flatMap_singleton, bytes, List.append_assoc]

/-- Equal hashes of frames of one format come of the same numbers and samples. -/
theorem content_of_bytes {format : StreamPcmFormat} {xs ys : List PcmFrame}
    (hxs : ∀ frame ∈ xs, frame.format = format) (hys : ∀ frame ∈ ys, frame.format = format)
    (heq : xs.flatMap bytes = ys.flatMap bytes) : xs.map content = ys.map content := by
  have hlen : ∀ frame : PcmFrame, frame.format = format →
      (bytes frame).length = 8 + format.frameBytes := by
    intro frame hframe
    rw [bytes, List.length_append, toLeBytes_length, frame.fits, hframe]
  refine map_eq_of_flatMap_eq (by omega) (fun x hx => hlen x (hxs x hx))
    (fun y hy => hlen y (hys y hy)) ?_ heq
  intro x _ y _ hbytes
  obtain ⟨hsequence, hpcm⟩ := List.append_inj hbytes (by rw [toLeBytes_length, toLeBytes_length])
  rw [content, content, toLeBytes_injective hsequence, hpcm]

theorem bytes_of_content {xs ys : List PcmFrame} (heq : xs.map content = ys.map content) :
    xs.flatMap bytes = ys.flatMap bytes := by
  have h : ∀ frames : List PcmFrame, frames.flatMap bytes
      = (frames.map content).flatMap fun c => toLeBytes c.1 ++ c.2 := by
    intro frames
    rw [List.flatMap_map]
    rfl
  rw [h xs, h ys, heq]

/-! ### Runs -/

/-- A frame is taken up as the next of its side, or one of the two flags is down for good. -/
theorem record_cases (format : StreamPcmFormat) (frame : PcmFrame) (track : Track) :
    ((record format frame track).1 = .ok () ∧ frame.format = format
      ∧ frame.sequence.toNat = track.count
      ∧ (record format frame track).2 = { track with
          hash := track.hash ++ toLeBytes frame.sequence ++ frame.pcm
          count := saturatingAdd track.count 1 })
    ∨ ((record format frame track).1 ≠ .ok ()
      ∧ ¬((record format frame track).2.formatMatches = true
        ∧ (record format frame track).2.sequenceMonotonic = true)) := by
  unfold record
  split
  · right
    simp
  · next hformat =>
    split
    · right
      simp
    · next hsequence =>
      left
      exact ⟨rfl, not_not.mp hformat, not_not.mp hsequence, rfl⟩

/-- Every call was accepted. -/
def Accepted (log : List (Call × Except ExactPcmEvidenceError Unit)) : Prop :=
  ∀ entry ∈ log, entry.2 = .ok ()

theorem accepted_nil : Accepted [] := by
  intro entry h
  cases h

theorem accepted_concat {log : List (Call × Except ExactPcmEvidenceError Unit)} {call : Call}
    {result : Except ExactPcmEvidenceError Unit} :
    Accepted (log ++ [(call, result)]) ↔ Accepted log ∧ result = .ok () := by
  simp [Accepted, or_imp, forall_and]

/-- The two flags say whether every call was accepted; while they stand, the counters and the hashes
    account for the frames of the calls. -/
structure Inv (format : StreamPcmFormat) (log : List (Call × Except ExactPcmEvidenceError Unit))
    (evidence : ExactPcmEvidence) : Prop where
  format_eq : evidence.format = format
  flags : evidence.formatMatches = true ∧ evidence.sequenceMonotonic = true ↔ Accepted log
  captured : Accepted log →
    Tells format (captured (log.map Prod.fst)) evidence.capturedCount evidence.capturedHash
  reinjected : Accepted log →
    Tells format (reinjected (log.map Prod.fst)) evidence.reinjectedCount evidence.reinjectedHash

theorem inv_new (format : StreamPcmFormat) : Inv format [] (new format) where
  format_eq := rfl
  flags := by simp [new, accepted_nil]
  captured := by
    intro _
    exact tells_nil format
  reinjected := by
    intro _
    exact tells_nil format

theorem inv_capture {format : StreamPcmFormat}
    {log : List (Call × Except ExactPcmEvidenceError Unit)} {evidence : ExactPcmEvidence}
    (h : Inv format log evidence) (frame : PcmFrame) :
    Inv format (log ++ [(.capture frame, (evidence.capture frame).1)])
      (evidence.capture frame).2 := by
  have hflags := h.flags
  rcases record_cases evidence.format frame ⟨evidence.capturedCount, evidence.capturedHash,
    evidence.formatMatches, evidence.sequenceMonotonic⟩
    with ⟨hok, hformat, hsequence, htrack⟩ | ⟨hrejected, hdown⟩
  · refine ⟨h.format_eq, ?_, ?_, ?_⟩
    · rw [accepted_concat]
      simp only [capture, hok, htrack, and_true]
      exact hflags
    · intro haccepted
      have htells := tells_concat (h.captured (accepted_concat.mp haccepted).1)
        (hformat.trans h.format_eq) hsequence
      rw [List.map_append, List.map_singleton, captured_capture]
      simp only [capture, htrack]
      exact htells
    · intro haccepted
      rw [List.map_append, List.map_singleton, reinjected_capture]
      exact h.reinjected (accepted_concat.mp haccepted).1
  · -- nothing is said about the counters any more
    have hnot : ¬Accepted (log ++ [(.capture frame, (evidence.capture frame).1)]) := by
      intro haccepted
      exact hrejected (accepted_concat.mp haccepted).2
    refine ⟨h.format_eq, ?_, ?_, ?_⟩
    · exact iff_of_false hdown hnot
    · intro haccepted
      exact absurd haccepted hnot
    · intro haccepted
      exact absurd haccepted hnot

theorem inv_reinject {format : StreamPcmFormat}
    {log : List (Call × Except ExactPcmEvidenceError Unit)} {evidence : ExactPcmEvidence}
    (h : Inv format log evidence) (frame : PcmFrame) :
    Inv format (log ++ [(.reinject frame, (evidence.reinject frame).1)])
      (evidence.reinject frame).2 := by
  have hflags := h.flags
  rcases record_cases evidence.format frame ⟨evidence.reinjectedCount, evidence.reinjectedHash,
    evidence.formatMatches, evidence.sequenceMonotonic⟩
    with ⟨hok, hformat, hsequence, htrack⟩ | ⟨hrejected, hdown⟩
  · refine ⟨h.format_eq, ?_, ?_, ?_⟩
    · rw [accepted_concat]
      simp only [reinject, hok, htrack, and_true]
      exact hflags
    · intro haccepted
      rw [List.map_append, List.map_singleton, captured_reinject]
      exact h.captured (accepted_concat.mp haccepted).1
    · intro haccepted
      have htells := tells_concat (h.reinjected (accepted_concat.mp haccepted).1)
        (hformat.trans h.format_eq) hsequence
      rw [List.map_append, List.map_singleton, reinjected_reinject]
      simp only [reinject, htrack]
      exact htells
  · have hnot : ¬Accepted (log ++ [(.reinject frame, (evidence.reinject frame).1)]) := by
      intro haccepted
      exact hrejected (accepted_concat.mp haccepted).2
    refine ⟨h.format_eq, ?_, ?_, ?_⟩
    · exact iff_of_false hdown hnot
    · intro haccepted
      exact absurd haccepted hnot
    · intro haccepted
      exact absurd haccepted hnot

theorem inv_run (format : StreamPcmFormat) (calls : List Call) :
    Inv format (exec apply (new format) calls).1 (exec apply (new format) calls).2 := by
  refine exec_invariant (I := Inv format) (inv_new format) ?_ calls (adm_true apply _ calls)
  intro log evidence call h _
  cases call with
  | capture frame => exact inv_capture h frame
  | reinject frame => exact inv_reinject h frame

/-- Two sides of which the counters and the hashes agree are the same frames, and nothing less. -/
theorem tells_agree {format : StreamPcmFormat} {xs ys : List PcmFrame} {m n : Nat}
    {a b : List UInt8} (hx : Tells format xs m a) (hy : Tells format ys n b) :
    (0 < m ∧ m = n ∧ a = b) ↔ (xs ≠ [] ∧ xs.map content = ys.map content) := by
  constructor
  · rintro ⟨hpos, -, rfl⟩
    refine ⟨?_, content_of_bytes hx.formats hy.formats (hx.hashes.symm.trans hy.hashes)⟩
    rintro rfl
    have := hx.counts
    simp at this
    omega
  · rintro ⟨hne, heq⟩
    have hlen : xs.length = ys.length := by simpa using congrArg List.length heq
    have hpos : 0 < xs.length := List.length_pos_of_ne_nil hne
    have hmax : 0 < u64Max := by decide
    refine ⟨?_, ?_, ?_⟩
    · rw [hx.counts]
      omega
    · rw [hx.counts, hy.counts, hlen]
    · rw [hx.hashes, hy.hashes, bytes_of_content heq]

/-- With a digest without collisions, the proof of any run of calls is exact when no call was rejected
    and the frames put back are those captured, the numbers from 0 on and the samples the same, and
    only then. -/
theorem exactMatch_iff (sha256 : List UInt8 → List UInt8) (hsha256 : Function.Injective sha256)
    (format : StreamPcmFormat) (calls : List Call) :
    ((exec apply (new format) calls).2.proof sha256).exactMatch = true
      ↔ Accepted (exec apply (new format) calls).1
        ∧ captured calls ≠ []
        ∧ (captured calls).map content = (reinjected calls).map content
        ∧ Numbered (captured calls) ∧ Numbered (reinjected calls) := by
  have hinv := inv_run format calls
  have hops := exec_ops apply (new format) calls
  generalize exec apply (new format) calls = run at hinv hops
  obtain ⟨log, evidence⟩ := run
  obtain ⟨-, hflags, hcaptured, hreinjected⟩ := hinv
  dsimp only at hops hflags hcaptured hreinjected ⊢
  rw [hops] at hcaptured hreinjected
  have hdigest : digestHex (sha256 evidence.capturedHash) = digestHex (sha256 evidence.reinjectedHash)
      ↔ evidence.capturedHash = evidence.reinjectedHash :=
    (digestHex_injective.comp hsha256).eq_iff
  have hexact : (evidence.proof sha256).exactMatch = true
      ↔ (evidence.formatMatches = true ∧ evidence.sequenceMonotonic = true)
        ∧ 0 < evidence.capturedCount ∧ evidence.capturedCount = evidence.reinjectedCount
        ∧ evidence.capturedHash = evidence.reinjectedHash := by
    simp only [proof, Bool.and_eq_true, decide_eq_true_eq, beq_iff_eq, hdigest]
    tauto
  rw [hexact, hflags]
  constructor
  · rintro ⟨haccepted, hagree⟩
    obtain ⟨hne, heq⟩ := (tells_agree (hcaptured haccepted) (hreinjected haccepted)).mp hagree
    exact ⟨haccepted, hne, heq, (hcaptured haccepted).numbered, (hreinjected haccepted).numbered⟩
  · rintro ⟨haccepted, hne, heq, -, -⟩
    exact ⟨haccepted, (tells_agree (hcaptured haccepted) (hreinjected haccepted)).mpr ⟨hne, heq⟩⟩

/-- A frame of silence, captured at the given time. -/
def silence (captureMonotonicNs : Nat) : PcmFrame :=
  ⟨0, captureMonotonicNs, .providerDefault, List.replicate 640 0, by rw [List.length_replicate]; rfl⟩

/-- The SHA-256 digest of the bytes of a frame of silence. -/
def silenceDigest : List UInt8 :=
  [244, 189, 132, 19, 8, 65, 93, 230, 237, 39, 39, 70, 44, 214, 106, 115,
    51, 172, 129, 85, 180, 232, 233, 93, 224, 34, 3, 85, 24, 156, 120, 92]

/-- One frame of silence that is put back later, under a function without collisions that does to it
    what SHA-256 does. -/
theorem exactMatch_silence :
    ((exec apply (new .providerDefault) [.capture (silence 5), .reinject (silence 9)]).2.proof
      (Equiv.swap (bytes (silence 5)) silenceDigest)).exactMatch = true := by
  have hnumbered : ∀ ns, Numbered [silence ns] := by
    intro ns i frame h
    cases i with
    | zero =>
      obtain rfl := Option.some.inj h
      rfl
    | succ i => simp at h
  refine (exactMatch_iff _ (Equiv.injective _) _ _).mpr ⟨?_, ?_, rfl, hnumbered 5, hnumbered 9⟩
  · rw [Accepted]
    decide
  · decide

end ExactPcmEvidence

end Translator.Control
