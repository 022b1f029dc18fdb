import Mathlib

/-! Byte streams behind reads and writes that may move fewer bytes than asked for, be
interrupted, or fail.
-/

set_option autoImplicit false

namespace Mult.Foundation

variable {B E : Type}

/-- What one read of a stream comes to. No arrival at all is the end of the stream. -/
inductive Arrival (B E : Type) where
  | bytes (chunk : List B) (some : chunk ≠ [])
  | interrupted
  | failed (error : E)
  deriving DecidableEq

def incoming : List (Arrival B E) → List B
  | [] => []
  | .bytes chunk _ :: later => chunk ++ incoming later
  | .interrupted :: later => incoming later
  | .failed _ :: _ => []

def Arrival.remainder (chunk : List B) (taken : Nat) (later : List (Arrival B E)) :
    List (Arrival B E) :=
  if rest : chunk.drop taken ≠ [] then .bytes (chunk.drop taken) rest :: later else later

/-- `read_exact`: reads until so many bytes are there. -/
def readExact (ended : E) : Nat → List (Arrival B E) → Except E (List B) × List (Arrival B E)
  | 0, stream => (.ok [], stream)
  | _ + 1, [] => (.error ended, [])
  | want + 1, .bytes chunk _ :: later =>
      if chunk.length < want + 1 then
        let (rest, left) := readExact ended (want + 1 - chunk.length) later
        (rest.map (chunk ++ ·), left)
      else (.ok (chunk.take (want + 1)), Arrival.remainder chunk (want + 1) later)
  | want + 1, .interrupted :: later => readExact ended (want + 1) later
  | _ + 1, .failed error :: later => (.error error, later)

theorem incoming_remainder (chunk : List B) (taken : Nat) (later : List (Arrival B E)) :
    incoming (Arrival.remainder chunk taken later) = chunk.drop taken ++ incoming later := by
  unfold Arrival.remainder
  split
  · rfl
  · next rest =>
    rw [not_not.mp rest]
    rfl

theorem readExact_ok (ended : E) {want : Nat} {stream : List (Arrival B E)}
    (enough : want ≤ (incoming stream).length) :
    (readExact ended want stream).1 = .ok ((incoming stream).take want) ∧
      incoming (readExact ended want stream).2 = (incoming stream).drop want := by
  induction stream generalizing want with
  | nil =>
    cases Nat.le_zero.mp enough
    exact ⟨rfl, rfl⟩
  | cons arrival later ih =>
    cases want with
    | zero => exact ⟨rfl, rfl⟩
    | succ want =>
      cases arrival with
      | bytes chunk some =>
        simp only [incoming, List.length_append] at enough
        simp only [readExact, incoming]
        split
        · next short =>
          obtain ⟨result, left⟩ := @ih (want + 1 - chunk.length) (by omega)
          rw [result, left, List.take_append, List.drop_append,
            List.take_of_length_le (Nat.le_of_lt short),
            List.drop_of_length_le (Nat.le_of_lt short)]
          exact ⟨rfl, rfl⟩
        · next full =>
          have within := Nat.le_of_not_lt full
          rw [incoming_remainder, List.take_append_of_le_length within,
            List.drop_append_of_le_length within]
          exact ⟨rfl, rfl⟩
      | interrupted => exact ih enough
      | failed error =>
        simp only [incoming, List.length_nil] at enough
        omega

theorem readExact_append (ended : E) {stream : List (Arrival B E)} {front rest : List B}
    (arrives : incoming stream = front ++ rest) :
    ∃ after, readExact ended front.length stream = (.ok front, after) ∧
      incoming after = rest := by
  have enough : front.length ≤ (incoming stream).length := by
    rw [arrives, List.length_append]
    exact Nat.le_add_right _ _
  obtain ⟨result, left⟩ := readExact_ok ended enough
  rw [arrives, List.take_left] at result
  rw [arrives, List.drop_left] at left
  exact ⟨_, Prod.ext result rfl, left⟩

/-- What one write comes to. -/
inductive Acceptance (E : Type) where
  | takes (count : Nat)
  | interrupted
  | failed (error : E)
  deriving DecidableEq

/-- A stream written to: what it has taken, and what the writes and flushes to come come to.
Those not listed succeed in full. -/
structure Sink (B E : Type) where
  written : List B
  writes : List (Acceptance E)
  flushes : List (Except E Unit)

/-- `write_all` against the writes to come: whether it succeeds, what is taken, and the writes
left. -/
def writeOut (refused : E) :
    List B → List (Acceptance E) → Except E Unit × List B × List (Acceptance E)
  | [], writes => (.ok (), [], writes)
  | first :: rest, [] => (.ok (), first :: rest, [])
  | first :: rest, .interrupted :: writes => writeOut refused (first :: rest) writes
  | _ :: _, .failed error :: writes => (.error error, [], writes)
  | _ :: _, .takes 0 :: writes => (.error refused, [], writes)
  | first :: rest, .takes (count + 1) :: writes =>
      let (result, taken, left) := writeOut refused (rest.drop count) writes
      (result, first :: rest.take count ++ taken, left)

namespace Sink

def writeAll (refused : E) (bytes : List B) (sink : Sink B E) : Except E Unit × Sink B E :=
  let (result, taken, left) := writeOut refused bytes sink.writes
  (result, { sink with written := sink.written ++ taken, writes := left })

def flush (sink : Sink B E) : Except E Unit × Sink B E :=
  (sink.flushes.head?.getD (.ok ()), { sink with flushes := sink.flushes.tail })

/-- No write fails or takes nothing, and no flush fails. -/
structure Steady (sink : Sink B E) : Prop where
  writes : ∀ acceptance ∈ sink.writes,
    acceptance = .interrupted ∨ ∃ count, acceptance = .takes (count + 1)
  flushes : ∀ result ∈ sink.flushes, result = .ok ()

end Sink

/-- Whatever the writes come to, a part from the front is taken, and all of it on success. -/
theorem writeOut_taken (refused : E) (bytes : List B) (writes : List (Acceptance E)) :
    ∃ rest, bytes = (writeOut refused bytes writes).2.1 ++ rest ∧
      ((writeOut refused bytes writes).1 = .ok () → rest = []) := by
  induction writes generalizing bytes with
  | nil => cases bytes <;> exact ⟨[], by simp [writeOut], fun _ => rfl⟩
  | cons acceptance writes ih =>
    cases bytes with
    | nil => exact ⟨[], rfl, fun _ => rfl⟩
    | cons first rest =>
      cases acceptance with
      | interrupted => exact ih (first :: rest)
      | failed error => exact ⟨first :: rest, rfl, fun done => nomatch done⟩
      | takes count =>
        cases count with
        | zero => exact ⟨first :: rest, rfl, fun done => nomatch done⟩
        | succ count =>
          obtain ⟨left, split, all⟩ := ih (rest.drop count)
          refine ⟨left, ?_, all⟩
          simp only [writeOut, List.cons_append, List.append_assoc, List.cons.injEq, true_and]
          rw [← split, List.take_append_drop]

theorem writeOut_steady (refused : E) (bytes : List B) {writes : List (Acceptance E)}
    (steady : ∀ acceptance ∈ writes,
      acceptance = .interrupted ∨ ∃ count, acceptance = .takes (count + 1)) :
    ∃ left, writeOut refused bytes writes = (.ok (), bytes, left) ∧ left ⊆ writes := by
  induction writes generalizing bytes with
  | nil => cases bytes <;> exact ⟨[], rfl, List.Subset.refl _⟩
  | cons acceptance writes ih =>
    have later := fun other member => steady other (List.mem_cons_of_mem acceptance member)
    cases bytes with
    | nil => exact ⟨_, rfl, List.Subset.refl _⟩
    | cons first rest =>
      rcases steady acceptance List.mem_cons_self with same | ⟨count, same⟩
      · subst same
        obtain ⟨left, out, fewer⟩ := ih (first :: rest) later
        exact ⟨left, out, List.subset_cons_of_subset _ fewer⟩
      · subst same
        obtain ⟨left, out, fewer⟩ := ih (rest.drop count) later
        refine ⟨left, ?_, List.subset_cons_of_subset _ fewer⟩
        simp only [writeOut, out, List.cons_append, List.take_append_drop]

namespace Sink

variable {sink : Sink B E}

theorem writeAll_taken (refused : E) (bytes : List B) (sink : Sink B E) :
    ∃ taken rest, bytes = taken ++ rest ∧
      (sink.writeAll refused bytes).2.written = sink.written ++ taken ∧
      (sink.writeAll refused bytes).2.flushes = sink.flushes ∧
      ((sink.writeAll refused bytes).1 = .ok () → rest = []) := by
  obtain ⟨rest, split, all⟩ := writeOut_taken refused bytes sink.writes
  exact ⟨_, rest, split, rfl, rfl, all⟩

theorem Steady.writeAll (steady : sink.Steady) (refused : E) (bytes : List B) :
    ∃ after, sink.writeAll refused bytes = (.ok (), after) ∧
      after.written = sink.written ++ bytes ∧ after.Steady := by
  obtain ⟨left, out, fewer⟩ := writeOut_steady refused bytes steady.writes
  refine ⟨{ sink with written := sink.written ++ bytes, writes := left }, ?_, rfl, ?_,
    steady.flushes⟩
  · simp only [Sink.writeAll, out]
  · exact fun acceptance member => steady.writes acceptance (fewer member)

theorem Steady.flush (steady : sink.Steady) :
    ∃ after, sink.flush = (.ok (), after) ∧ after.written = sink.written ∧ after.Steady := by
  have done : sink.flushes.head?.getD (.ok ()) = .ok () := by
    cases first : sink.flushes with
    | nil => rfl
    | cons result later => exact steady.flushes result (first ▸ List.mem_cons_self)
  refine ⟨{ sink with flushes := sink.flushes.tail }, ?_, rfl, steady.writes, ?_⟩
  · rw [Sink.flush, done]
  · exact fun result member => steady.flushes result (List.mem_of_mem_tail member)

end Sink

end Mult.Foundation
