import Mult.Daemon.RawHistory
import Mult.Foundation.Chunks

/-! The retained history over any sequence of appends: which bytes it holds, and how it hands
them out.
-/

set_option autoImplicit false

namespace Mult.Daemon
open Foundation Protocol

namespace RawHistory

theorem fill_exact {size fuel : Nat} {frames : List Bytes} {pending rest : Bytes}
    (exact : ∀ frame ∈ frames, frame.length = size) :
    ∀ frame ∈ (fill size fuel frames pending rest).1, frame.length = size := by
  induction fuel generalizing frames pending rest with
  | zero => exact exact
  | succ fuel ih =>
    simp only [fill]
    split
    · exact exact
    · split
      · next full =>
        refine ih fun frame listed => ?_
        rcases List.mem_append.mp listed with before | added
        · exact exact frame before
        · rw [List.mem_singleton.mp added]
          exact full
      · exact ih exact

theorem coalesce_exact {size : Nat} {state : List Bytes × Bytes}
    (exact : ∀ frame ∈ state.1, frame.length = size) (chunk : Bytes) :
    ∀ frame ∈ (coalesce size state chunk).1, frame.length = size := by
  unfold coalesce
  split
  · next whole =>
    intro frame listed
    rcases List.mem_append.mp listed with before | added
    · exact exact frame before
    · rw [List.mem_singleton.mp added]
      exact whole.2
  · exact fill_exact exact

theorem foldl_coalesce_exact {size : Nat} (state : List Bytes × Bytes)
    (exact : ∀ frame ∈ state.1, frame.length = size) (room : state.2.length < size)
    (chunks : List Bytes) :
    let folded := chunks.foldl (coalesce size) state
    (∀ frame ∈ folded.1, frame.length = size) ∧ folded.2.length < size := by
  induction chunks generalizing state with
  | nil => exact ⟨exact, room⟩
  | cons chunk chunks ih => exact ih _ (coalesce_exact exact chunk) (coalesce_spec room chunk).2

/-- The history is handed out in full frames, with one shorter one at the end. -/
theorem replayChunks_chunked (history : RawHistory) :
    Chunked rawHistoryChunkBytes history.replayChunks := by
  obtain ⟨exact, room⟩ := foldl_coalesce_exact ([], []) (fun _ listed => nomatch listed)
    (by decide : 0 < rawHistoryChunkBytes) history.slices
  exact Chunked.of_exact exact room

theorem replayChunks_eq {history other : RawHistory} (same : history.contents = other.contents) :
    history.replayChunks = other.replayChunks := by
  refine Chunked.unique (by decide : 0 < rawHistoryChunkBytes) history.replayChunks_chunked
    other.replayChunks_chunked ?_
  rw [replayChunks_flatten, replayChunks_flatten, same]

def afterReads (limit : Nat) (reads : List Bytes) : RawHistory :=
  reads.foldl (fun history read => (history.append read limit).2) empty

def stored (history : RawHistory) (segments : List Bytes) : RawHistory :=
  ⟨history.chunks ++ segments, history.frontOffset, history.len + segments.flatten.length⟩

theorem afterReads_snoc (limit : Nat) (reads : List Bytes) (read : Bytes) :
    afterReads limit (reads ++ [read]) = ((afterReads limit reads).append read limit).2 := by
  simp [afterReads]

theorem drop_drop_excess (whole : Bytes) (more : Bytes) (limit : Nat) :
    (whole.drop (whole.length - limit) ++ more).drop
        ((whole.drop (whole.length - limit)).length + more.length - limit) =
      (whole ++ more).drop ((whole ++ more).length - limit) := by
  have early : whole.length - limit ≤ whole.length := Nat.sub_le ..
  rw [← List.drop_append_of_le_length early, List.drop_drop]
  congr 1
  simp only [List.length_drop, List.length_append]
  omega

/-- The history is the end of everything read, as long as the limit lets it be. -/
theorem afterReads_spec (limit : Nat) (reads : List Bytes) :
    WellFormed (afterReads limit reads) ∧
      (afterReads limit reads).contents =
        reads.flatten.drop (reads.flatten.length - limit) := by
  induction reads using List.reverseRecOn with
  | nil => exact ⟨wellFormed_empty, by simp [afterReads, empty, contents, slices]⟩
  | append_singleton reads read ih =>
    obtain ⟨formed, kept⟩ := ih
    obtain ⟨-, formed', kept'⟩ := append_spec formed read limit
    refine ⟨afterReads_snoc limit reads read ▸ formed', ?_⟩
    rw [afterReads_snoc, kept', ← formed.length_contents, kept, drop_drop_excess,
      List.flatten_append, List.flatten_singleton]

theorem stored_spec {history : RawHistory} (formed : WellFormed history) {segments : List Bytes}
    (nonempty : ∀ segment ∈ segments, segment ≠ []) (limit : Nat) :
    ((history.stored segments).trimTo limit).1 =
        history.len + segments.flatten.length - limit ∧
      ((history.stored segments).trimTo limit).2.contents =
        (history.contents ++ segments.flatten).drop
          (history.len + segments.flatten.length - limit) := by
  have grown := wellFormed_append formed nonempty rfl
  obtain ⟨count, -, kept⟩ := trimTo_spec grown limit
  refine ⟨count, ?_⟩
  rw [contents_append history formed] at kept
  exact kept

/-- After any reads, under any limit, the history is the end of the output that fits. It is handed
out in full frames but for the last, whichever way the output was read; a further read drops as
many bytes as it says; and whether the read is shared whole or copied in pieces is not seen. -/
theorem history_exact (limit : Nat) (reads : List Bytes) :
    let history := afterReads limit reads
    let output := reads.flatten
    history.replayChunks.flatten = output.drop (output.length - limit) ∧
      history.len = min limit output.length ∧
      (∀ front rest, history.chunks = front :: rest → history.frontOffset < front.length) ∧
      (history.chunks = [] → history.frontOffset = 0) ∧
      (∀ chunk ∈ history.replayChunks.dropLast, chunk.length = rawHistoryChunkBytes) ∧
      history.replayChunks.length =
        (history.len + rawHistoryChunkBytes - 1) / rawHistoryChunkBytes ∧
      (∀ others : List Bytes, others.flatten = output →
        (afterReads limit others).replayChunks = history.replayChunks) ∧
      ∀ bytes : Bytes,
        (history.append bytes limit).1 = history.len + bytes.length - limit ∧
        (history.append bytes limit).2.len + (history.append bytes limit).1 =
          history.len + bytes.length ∧
        (history.append bytes limit).2.replayChunks.flatten =
          (history.replayChunks.flatten ++ bytes).drop (history.append bytes limit).1 ∧
        ∀ segments : List Bytes, (∀ segment ∈ segments, segment ≠ []) →
          segments.flatten = bytes →
          ((history.stored segments).trimTo limit).1 = (history.append bytes limit).1 ∧
            ((history.stored segments).trimTo limit).2.replayChunks =
              (history.append bytes limit).2.replayChunks := by
  intro history output
  obtain ⟨formed, kept⟩ := afterReads_spec limit reads
  have joined : history.replayChunks.flatten = history.contents := history.replayChunks_flatten
  -- Everything follows from what is kept: the last bytes of the output, up to the limit.
  have length : history.len = min limit output.length := by
    change (afterReads limit reads).len = min limit reads.flatten.length
    rw [← formed.length_contents, kept, List.length_drop]
    omega
  refine ⟨joined.trans kept, length, formed.front_offset, formed.offset_empty,
    history.replayChunks_chunked.exact_dropLast, ?_, fun others same => ?_, fun bytes => ?_⟩
  · rw [history.replayChunks_chunked.count (by decide), joined, formed.length_contents]
  · refine replayChunks_eq ?_
    rw [(afterReads_spec limit others).2, kept, same]
  · obtain ⟨count, formed', kept'⟩ := append_spec formed bytes limit
    refine ⟨count, ?_, ?_, fun segments nonempty whole => ?_⟩
    · have left := formed'.length_contents
      rw [kept', List.length_drop, List.length_append, formed.length_contents] at left
      change ((afterReads limit reads).append bytes limit).2.len +
        ((afterReads limit reads).append bytes limit).1 =
          (afterReads limit reads).len + bytes.length
      omega
    · rw [replayChunks_flatten, replayChunks_flatten, kept', count]
    · obtain ⟨counted, same⟩ := stored_spec formed nonempty limit
      rw [whole] at counted same
      exact ⟨counted.trans count.symm, replayChunks_eq (same.trans kept'.symm)⟩

end RawHistory

end Mult.Daemon
