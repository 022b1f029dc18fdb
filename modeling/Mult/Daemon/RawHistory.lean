import Mult.Protocol.Messages

/-! Raw output retained per pane for attach replay: a queue of immutable chunks
and an offset into the oldest one, so that trimming drops whole chunks.
-/

set_option autoImplicit false

namespace Mult.Daemon
open Protocol

/-- Largest retained-history chunk, and therefore the largest replay message. -/
def rawHistoryChunkBytes : Nat := 64 * 1024

/-- Raw PTY output retained per pane: 5000 scrollback lines at 512 bytes each. -/
def rawHistoryMaxBytes : Nat := 5000 * 512

structure RawHistory where
  chunks : List Bytes
  /-- Bytes of the oldest chunk already trimmed away. -/
  frontOffset : Nat
  len : Nat
  deriving DecidableEq, Repr

/-- The chunks of the given size a read is split into; the fuel bounds their number. -/
def pieces (size : Nat) : Nat → Bytes → List Bytes
  | 0, bytes => [bytes]
  | fuel + 1, bytes =>
      if bytes.length ≤ size then [bytes]
      else bytes.take size :: pieces size fuel (bytes.drop size)

namespace RawHistory

def empty : RawHistory := ⟨[], 0, 0⟩

def trimChunks (frontOffset len : Nat) : Nat → Nat → List Bytes → Nat × RawHistory
  | _, dropped, [] => (dropped, ⟨[], frontOffset, len⟩)
  | remaining, dropped, front :: rest =>
      if remaining = 0 then (dropped, ⟨front :: rest, frontOffset, len⟩)
      else
        let available := front.length - frontOffset
        if remaining < available then
          (dropped + remaining, ⟨front :: rest, frontOffset + remaining, len - remaining⟩)
        else
          trimChunks 0 (len - available) (remaining - available) (dropped + available) rest

/-- Drop the oldest bytes beyond the limit; the number dropped comes first. -/
def trimTo (history : RawHistory) (limit : Nat) : Nat × RawHistory :=
  trimChunks history.frontOffset history.len (history.len - limit) 0 history.chunks

def append (history : RawHistory) (bytes : Bytes) (limit : Nat) : Nat × RawHistory :=
  let history :=
    if bytes.length ≤ rawHistoryChunkBytes then
      if bytes = [] then history
      else { history with
        len := history.len + bytes.length
        chunks := history.chunks ++ [bytes] }
    else
      { history with
        len := history.len + bytes.length
        chunks := history.chunks ++ pieces rawHistoryChunkBytes bytes.length bytes }
  history.trimTo limit

/-- Move bytes into the pending frame, sending it off each time it is full. -/
def fill (size : Nat) : Nat → List Bytes → Bytes → Bytes → List Bytes × Bytes
  | 0, frames, pending, _ => (frames, pending)
  | fuel + 1, frames, pending, rest =>
      if rest = [] then (frames, pending)
      else
        let taken := min (size - pending.length) rest.length
        let pending := pending ++ rest.take taken
        let rest := rest.drop taken
        if pending.length = size then fill size fuel (frames ++ [pending]) [] rest
        else fill size fuel frames pending rest

/-- A full-sized chunk with nothing pending before it is already a frame. -/
def coalesce (size : Nat) (state : List Bytes × Bytes) (chunk : Bytes) : List Bytes × Bytes :=
  if state.2 = [] ∧ chunk.length = size then (state.1 ++ [chunk], [])
  else fill size chunk.length state.1 state.2 chunk

/-- The retained slices, oldest first. -/
def slices (history : RawHistory) : List Bytes :=
  match history.chunks with
  | [] => []
  | front :: rest => front.drop history.frontOffset :: rest

/-- Adjacent retained slices, coalesced up to the frame size. -/
def framesOf (size : Nat) (history : RawHistory) : List Bytes :=
  let (frames, pending) := history.slices.foldl (coalesce size) ([], [])
  if pending = [] then frames else frames ++ [pending]

def replayChunks (history : RawHistory) : List Bytes := history.framesOf rawHistoryChunkBytes

def contents (history : RawHistory) : Bytes := history.slices.flatten

structure WellFormed (history : RawHistory) : Prop where
  front_offset : ∀ front rest, history.chunks = front :: rest → history.frontOffset < front.length
  offset_empty : history.chunks = [] → history.frontOffset = 0
  no_empty_chunk : ∀ chunk ∈ history.chunks, chunk ≠ []
  length_contents : history.contents.length = history.len

theorem wellFormed_empty : WellFormed empty where
  front_offset front rest present := by cases present
  offset_empty _ := rfl
  no_empty_chunk chunk member := by cases member
  length_contents := rfl

end RawHistory

theorem pieces_flatten (size fuel : Nat) (bytes : Bytes) :
    (pieces size fuel bytes).flatten = bytes := by
  induction fuel generalizing bytes with
  | zero => simp [pieces]
  | succ fuel ih =>
    unfold pieces
    split
    · simp
    · simp [ih]

theorem pieces_nonempty {size fuel : Nat} (positive : 0 < size) {bytes : Bytes}
    (nonempty : bytes ≠ []) : ∀ piece ∈ pieces size fuel bytes, piece ≠ [] := by
  induction fuel generalizing bytes with
  | zero => simpa [pieces] using nonempty
  | succ fuel ih =>
    unfold pieces
    split
    · simpa using nonempty
    · next long =>
      intro piece member
      rcases List.mem_cons.mp member with rfl | later
      · intro empty
        have := congrArg List.length empty
        simp only [List.length_take, List.length_nil] at this
        omega
      · refine ih (fun empty => ?_) piece later
        have := congrArg List.length empty
        simp only [List.length_drop, List.length_nil] at this
        omega

namespace RawHistory

theorem contents_cons (front : Bytes) (rest : List Bytes) (offset len : Nat) :
    contents ⟨front :: rest, offset, len⟩ = front.drop offset ++ rest.flatten := by
  simp [contents, slices]

theorem trimChunks_spec {chunks : List Bytes} {frontOffset len remaining dropped : Nat}
    (formed : WellFormed ⟨chunks, frontOffset, len⟩) (enough : remaining ≤ len) :
    let trimmed := trimChunks frontOffset len remaining dropped chunks
    trimmed.1 = dropped + remaining ∧ WellFormed trimmed.2 ∧
      trimmed.2.contents = (contents ⟨chunks, frontOffset, len⟩).drop remaining := by
  induction chunks generalizing frontOffset len remaining dropped with
  | nil =>
    have counted : 0 = len := formed.length_contents
    obtain rfl : remaining = 0 := by omega
    exact ⟨rfl, formed, by simp [contents, slices, trimChunks]⟩
  | cons front rest ih =>
    have offset : frontOffset < front.length := formed.front_offset front rest rfl
    have counted : (front.drop frontOffset ++ rest.flatten).length = len := by
      rw [← contents_cons front rest frontOffset len]
      exact formed.length_contents
    simp only [List.length_append, List.length_drop] at counted
    simp only [trimChunks]
    split
    · next none => exact ⟨by simp [none], formed, by simp [none]⟩
    · split
      · next some within =>
        -- The cut falls into the first segment, which keeps its end.
        refine ⟨rfl, ⟨fun first others same => ?_, fun empty => ?_,
          formed.no_empty_chunk, ?_⟩, ?_⟩
        · cases same
          simp only
          omega
        · cases empty
        · rw [contents_cons]
          simp only [List.length_append, List.length_drop]
          omega
        · rw [contents_cons, contents_cons, List.drop_append_of_le_length
            (by simp only [List.length_drop]; omega), List.drop_drop]
      · next some beyond =>
        -- The first segment goes whole, and the cut is made in the rest.
        have tail : WellFormed ⟨rest, 0, len - (front.length - frontOffset)⟩ := by
          refine ⟨fun first others same => ?_, fun _ => rfl,
            fun chunk member => formed.no_empty_chunk chunk (List.mem_cons_of_mem _ member), ?_⟩
          · obtain rfl : rest = first :: others := same
            exact List.length_pos_iff.mpr (formed.no_empty_chunk first (by simp))
          · have whole : contents ⟨rest, 0, len - (front.length - frontOffset)⟩ = rest.flatten := by
              cases rest <;> simp [contents, slices]
            rw [whole]
            simp only
            omega
        obtain ⟨count, trimmedFormed, kept⟩ :=
          @ih 0 _ (remaining - (front.length - frontOffset))
            (dropped + (front.length - frontOffset)) tail (by omega)
        refine ⟨by rw [count]; omega, trimmedFormed, ?_⟩
        have skipped : (front.drop frontOffset).drop remaining = [] :=
          List.drop_eq_nil_of_le (by rw [List.length_drop]; omega)
        rw [kept, contents_cons, List.drop_append, skipped, List.nil_append, List.length_drop]
        cases rest <;> simp [contents, slices]

theorem trimTo_spec {history : RawHistory} (formed : WellFormed history) (limit : Nat) :
    (history.trimTo limit).1 = history.len - limit ∧ WellFormed (history.trimTo limit).2 ∧
      (history.trimTo limit).2.contents = history.contents.drop (history.len - limit) := by
  obtain ⟨count, trimmedFormed, kept⟩ := @trimChunks_spec _ _ _ _ 0 formed
    (Nat.sub_le history.len limit)
  exact ⟨by rw [Nat.zero_add] at count; exact count, trimmedFormed, kept⟩

theorem contents_append (history : RawHistory) (formed : WellFormed history) (len : Nat)
    (more : List Bytes) :
    contents ⟨history.chunks ++ more, history.frontOffset, len⟩ =
      history.contents ++ more.flatten := by
  unfold contents slices
  cases present : history.chunks with
  | nil =>
    have zero := formed.offset_empty present
    cases more <;> simp [zero]
  | cons front rest => simp

theorem wellFormed_append {history : RawHistory} (formed : WellFormed history)
    {more : List Bytes} (nonempty : ∀ chunk ∈ more, chunk ≠ []) {bytes : Bytes}
    (whole : more.flatten = bytes) :
    WellFormed ⟨history.chunks ++ more, history.frontOffset, history.len + bytes.length⟩ where
  front_offset front rest same := by
    cases present : history.chunks with
    | nil =>
      simp only [present, List.nil_append] at same
      subst same
      simp only [formed.offset_empty present]
      exact List.length_pos_iff.mpr (nonempty front (by simp))
    | cons first others =>
      simp only [present, List.cons_append, List.cons.injEq] at same
      rw [← same.1]
      exact formed.front_offset first others present
  offset_empty same := formed.offset_empty (List.append_eq_nil_iff.mp same).1
  no_empty_chunk chunk member := by
    rcases List.mem_append.mp member with old | new
    · exact formed.no_empty_chunk chunk old
    · exact nonempty chunk new
  length_contents := by
    rw [contents_append history formed, List.length_append, formed.length_contents, whole]

/-- The history is always the longest suffix of the output that fits the limit. -/
theorem append_spec {history : RawHistory} (formed : WellFormed history) (bytes : Bytes)
    (limit : Nat) :
    (history.append bytes limit).1 = history.len + bytes.length - limit ∧
      WellFormed (history.append bytes limit).2 ∧
      (history.append bytes limit).2.contents =
        (history.contents ++ bytes).drop (history.len + bytes.length - limit) := by
  simp only [append]
  split
  · split
    · next empty => simpa [empty] using trimTo_spec formed limit
    · next nonempty =>
      have more : ∀ chunk ∈ [bytes], chunk ≠ [] := by simpa using nonempty
      have grown := wellFormed_append formed more (List.flatten_singleton)
      simpa only [contents_append history formed, List.flatten_singleton] using
        trimTo_spec grown limit
  · next long =>
    have nonempty : bytes ≠ [] := by
      rintro rfl
      simp at long
    have more : ∀ piece ∈ pieces rawHistoryChunkBytes bytes.length bytes, piece ≠ [] :=
      pieces_nonempty (by decide) nonempty
    have grown := wellFormed_append formed more (pieces_flatten ..)
    simpa only [contents_append history formed, pieces_flatten] using trimTo_spec grown limit

theorem fill_spec {size fuel : Nat} {frames : List Bytes} {pending rest : Bytes}
    (room : pending.length < size) (enough : rest.length ≤ fuel) :
    let filled := fill size fuel frames pending rest
    filled.1.flatten ++ filled.2 = frames.flatten ++ pending ++ rest ∧ filled.2.length < size := by
  induction fuel generalizing frames pending rest with
  | zero =>
    obtain rfl : rest = [] := List.length_eq_zero_iff.mp (by omega)
    simpa [fill] using room
  | succ fuel ih =>
    simp only [fill]
    split
    · next empty => simpa [empty] using room
    · next nonempty =>
      have positive := List.length_pos_iff.mpr nonempty
      have shorter : (rest.drop (min (size - pending.length) rest.length)).length ≤ fuel := by
        simp only [List.length_drop]
        omega
      split
      · obtain ⟨joined, small⟩ := @ih
          (frames ++ [pending ++ rest.take (min (size - pending.length) rest.length)]) [] _
          (by simp only [List.length_nil]; omega) shorter
        refine ⟨?_, small⟩
        rw [joined]
        simp [List.append_assoc, List.take_append_drop]
      · next partly =>
        obtain ⟨joined, small⟩ := @ih frames
          (pending ++ rest.take (min (size - pending.length) rest.length)) _
          (by simp only [List.length_append, List.length_take] at partly ⊢; omega) shorter
        refine ⟨?_, small⟩
        rw [joined]
        simp [List.append_assoc, List.take_append_drop]

theorem coalesce_spec {size : Nat} {state : List Bytes × Bytes}
    (room : state.2.length < size) (chunk : Bytes) :
    (coalesce size state chunk).1.flatten ++ (coalesce size state chunk).2 =
      state.1.flatten ++ state.2 ++ chunk ∧ (coalesce size state chunk).2.length < size := by
  unfold coalesce
  split
  · next whole =>
    refine ⟨by simp [whole.1], ?_⟩
    simp only [List.length_nil]
    omega
  · exact fill_spec room (Nat.le_refl _)

theorem foldl_coalesce_spec {size : Nat} {state : List Bytes × Bytes}
    (room : state.2.length < size) (chunks : List Bytes) :
    let folded := chunks.foldl (coalesce size) state
    folded.1.flatten ++ folded.2 = state.1.flatten ++ state.2 ++ chunks.flatten := by
  induction chunks generalizing state with
  | nil => simp
  | cons chunk chunks ih =>
    obtain ⟨joined, small⟩ := coalesce_spec room chunk
    simp only [List.foldl_cons, List.flatten_cons]
    rw [ih small, joined]
    simp [List.append_assoc]

theorem framesOf_flatten {size : Nat} (positive : 0 < size) (history : RawHistory) :
    (history.framesOf size).flatten = history.contents := by
  have joined := @foldl_coalesce_spec size ([], []) positive history.slices
  simp only [List.flatten_nil, List.nil_append] at joined
  unfold framesOf contents
  rw [← joined]
  simp only
  split
  · next none => simp [none]
  · simp

theorem replayChunks_flatten (history : RawHistory) :
    history.replayChunks.flatten = history.contents :=
  framesOf_flatten (by decide) history

end RawHistory

end Mult.Daemon
