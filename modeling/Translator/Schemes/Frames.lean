import Mathlib.Data.List.Basic

/-! A stream cut into frames of one length. `Cut n frames rest stream` says that the frames, each of
    `n` elements, and a rest too short for another one make up the stream; for a given stream there
    is one such cut, so how the stream arrived does not show in it. -/

namespace Translator.Schemes

variable {α : Type*}

/-- The whole frames at the head of a stream. -/
def framesOf (n : Nat) (stream : List α) : List (List α) :=
  (List.range (stream.length / n)).map fun i => (stream.drop (i * n)).take n

/-- What is left behind the whole frames. -/
def restOf (n : Nat) (stream : List α) : List α := stream.drop (stream.length / n * n)

/-- The stream is its frames and a rest that is shorter than a frame. -/
structure Cut (n : Nat) (frames : List (List α)) (rest stream : List α) : Prop where
  whole : ∀ frame ∈ frames, frame.length = n
  short : rest.length < n
  joined : frames.flatten ++ rest = stream

variable {n : Nat} {frames frames' : List (List α)} {rest rest' stream more : List α}

theorem framesOf_append (hn : 0 < n) {frame : List α} (hframe : frame.length = n) (stream : List α) :
    framesOf n (frame ++ stream) = frame :: framesOf n stream := by
  have hdiv : (n + stream.length) / n = stream.length / n + 1 := by
    rw [Nat.add_comm, Nat.add_div_right _ hn]
  rw [framesOf, List.length_append, hframe, hdiv, List.range_succ_eq_map, List.map_cons, framesOf,
    List.map_map]
  refine congrArg₂ List.cons ?_ (List.map_congr_left fun i _ => ?_)
  · rw [Nat.zero_mul, List.drop_zero, List.take_append_of_le_length (Nat.le_of_eq hframe.symm),
      ← hframe, List.take_length]
  · have hskip : (i + 1) * n = frame.length + i * n := by rw [hframe, Nat.succ_mul, Nat.add_comm]
    rw [Function.comp_apply, Nat.succ_eq_add_one, hskip, List.drop_append, List.drop_eq_nil_of_le
      (Nat.le_add_right _ _), List.nil_append, Nat.add_sub_cancel_left]

theorem restOf_append (hn : 0 < n) {frame : List α} (hframe : frame.length = n) (stream : List α) :
    restOf n (frame ++ stream) = restOf n stream := by
  have hdiv : (n + stream.length) / n = stream.length / n + 1 := by
    rw [Nat.add_comm, Nat.add_div_right _ hn]
  have hskip : (stream.length / n + 1) * n = frame.length + stream.length / n * n := by
    rw [hframe, Nat.succ_mul, Nat.add_comm]
  rw [restOf, List.length_append, hframe, hdiv, hskip, List.drop_append, List.drop_eq_nil_of_le
    (Nat.le_add_right _ _), List.nil_append, Nat.add_sub_cancel_left, restOf]

theorem framesOf_short (h : stream.length < n) : framesOf n stream = [] := by
  rw [framesOf, Nat.div_eq_of_lt h, List.range_zero, List.map_nil]

theorem restOf_short (h : stream.length < n) : restOf n stream = stream := by
  rw [restOf, Nat.div_eq_of_lt h, Nat.zero_mul, List.drop_zero]

/-- There is no other cut. -/
theorem Cut.unique (h : Cut n frames rest stream) :
    frames = framesOf n stream ∧ rest = restOf n stream := by
  obtain ⟨hwhole, hshort, rfl⟩ := h
  have hn : 0 < n := Nat.lt_of_le_of_lt (Nat.zero_le _) hshort
  induction frames with
  | nil => exact ⟨(framesOf_short hshort).symm, (restOf_short hshort).symm⟩
  | cons frame frames ih =>
    have hframe := hwhole frame (List.mem_cons_self ..)
    obtain ⟨hframes, hrest⟩ := ih fun f hf => hwhole f (List.mem_cons_of_mem frame hf)
    rw [List.flatten_cons, List.append_assoc, framesOf_append hn hframe, restOf_append hn hframe]
    exact ⟨congrArg _ hframes, hrest⟩

/-- Every stream can be cut. -/
theorem cut_stream (hn : 0 < n) (stream : List α) :
    Cut n (framesOf n stream) (restOf n stream) stream := by
  by_cases h : stream.length < n
  · rw [framesOf_short h, restOf_short h]
    exact ⟨by simp, h, rfl⟩
  · have hframe : (stream.take n).length = n := List.length_take_of_le (Nat.le_of_not_lt h)
    have hfewer : (stream.drop n).length < stream.length := by rw [List.length_drop]; omega
    obtain ⟨hwhole, hshort, hjoined⟩ := cut_stream hn (stream.drop n)
    have hcut : Cut n (stream.take n :: framesOf n (stream.drop n)) (restOf n (stream.drop n))
        stream := by
      refine ⟨?_, hshort, ?_⟩
      · rintro frame (_ | ⟨_, hmem⟩)
        · exact hframe
        · exact hwhole frame hmem
      · rw [List.flatten_cons, List.append_assoc, hjoined, List.take_append_drop]
    obtain ⟨hframes, hrest⟩ := hcut.unique
    rwa [hframes, hrest] at hcut
termination_by stream.length

theorem cut_nil (hn : 0 < n) : Cut n ([] : List (List α)) [] [] := ⟨by simp, hn, rfl⟩

/-- A stream that goes on is cut further from where its rest begins. -/
theorem Cut.append (h : Cut n frames rest stream) (h' : Cut n frames' rest' (rest ++ more)) :
    Cut n (frames ++ frames') rest' (stream ++ more) where
  whole frame hmem := (List.mem_append.mp hmem).elim (h.whole frame) (h'.whole frame)
  short := h'.short
  joined := by
    rw [List.flatten_append, List.append_assoc, h'.joined, ← List.append_assoc, h.joined]

theorem Cut.length (h : Cut n frames rest stream) :
    stream.length = frames.length * n + rest.length := by
  have hlengths : frames.map List.length = List.replicate frames.length n := by
    refine List.eq_replicate_iff.mpr ⟨List.length_map .., fun length hmem => ?_⟩
    obtain ⟨frame, hframe, rfl⟩ := List.mem_map.mp hmem
    exact h.whole frame hframe
  rw [← h.joined, List.length_append, List.length_flatten, hlengths, List.sum_replicate_nat]

/-- Only the whole frames decide what the frames are. -/
theorem framesOf_take (hn : 0 < n) (stream : List α) :
    framesOf n (stream.take (stream.length / n * n)) = framesOf n stream := by
  have hcut := cut_stream hn stream
  have hjoined : (framesOf n stream).flatten ++ restOf n stream
      = stream.take (stream.length / n * n) ++ restOf n stream := by
    rw [hcut.joined, restOf, List.take_append_drop]
  rw [← List.append_cancel_right hjoined]
  have halone : Cut n (framesOf n stream) [] (framesOf n stream).flatten :=
    ⟨hcut.whole, hn, List.append_nil _⟩
  exact halone.unique.1.symm

end Translator.Schemes
