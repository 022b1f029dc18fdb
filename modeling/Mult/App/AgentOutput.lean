import Mult.App.Conversation
import Mult.Foundation.Utf8
import Mult.Protocol.Messages

/-! The reader of an agent's output: each read becomes a delta of its own. -/

set_option autoImplicit false

namespace Mult.App
open Foundation Protocol Storage
open Foundation.Utf8 (encode lossy AtBoundary)

/-- What reading the pipe comes to. No bytes at all are its end. -/
inductive Reading where
  | bytes (read : Bytes)
  | interrupted
  | failed (error : IoError)
  deriving DecidableEq, Repr

def readerBufferBytes : Nat := 8192

section
variable (target : AgentTarget) (role : AgentMessageRole) (hears : Nat → Bool)

/-- The events that are sent, given which of the sends find the receiver still there. -/
def pipeReaderEvents (sent : Nat) : List Reading → List AgentEvent
  | [] => []
  | .bytes read :: rest =>
    if read = [] then []
    else if hears sent then
      .messageDelta target role (String.ofList (lossy read)) :: pipeReaderEvents (sent + 1) rest
    else []
  | .interrupted :: rest => pipeReaderEvents sent rest
  | .failed error :: _ =>
    if hears sent then [.error target ("failed to read agent output: " ++ error.text)] else []

def spawnPipeReader (readings : List Reading) : List AgentEvent :=
  pipeReaderEvents target role hears 0 readings

end

/-- The bytes of the reads before the end. -/
def Reading.piece : Reading → Option Bytes
  | .bytes read => if read = [] then none else some read
  | .interrupted => none
  | .failed _ => none

/-- A whole stream as the pipe gives it out: in pieces of any size up to that of the buffer, with
interruptions, and then its end. -/
structure Delivers (stream : Bytes) (readings : List Reading) : Prop where
  whole : (readings.filterMap Reading.piece).flatten = stream
  sized : ∀ read, .bytes read ∈ readings → read.length ≤ readerBufferBytes
  ended : ∃ before, readings = before ++ [.bytes []] ∧
    ∀ reading ∈ before, reading ≠ .bytes [] ∧ ∀ error, reading ≠ .failed error

def deltaText : AgentEvent → List Char
  | .messageDelta _ _ text => text.toList
  | _ => []

theorem pipeReaderEvents_text (target : AgentTarget) (role : AgentMessageRole) (sent : Nat)
    {before : List Reading} (lasting : ∀ reading ∈ before, reading ≠ .bytes [] ∧
      ∀ error, reading ≠ .failed error) :
    (pipeReaderEvents target role (fun _ => true) sent (before ++ [Reading.bytes []])).flatMap deltaText =
      ((before ++ [Reading.bytes []]).filterMap Reading.piece).flatMap lossy := by
  induction before generalizing sent with
  | nil => rfl
  | cons reading before ih =>
    rw [List.forall_mem_cons] at lasting
    obtain ⟨⟨filled, working⟩, lasting⟩ := lasting
    cases reading with
    | bytes read =>
      have some : read ≠ [] := fun none => filled (congrArg Reading.bytes none)
      simp [pipeReaderEvents, Reading.piece, some, deltaText, ih _ lasting]
    | interrupted => exact ih sent lasting
    | failed error => exact absurd rfl (working error)

/-- However the pipe splits a text, the deltas together are the text if and only if no read begins
within a character. -/
theorem deltas_whole_iff (target : AgentTarget) (role : AgentMessageRole) {text : List Char}
    {readings : List Reading} (delivers : Delivers (encode text) readings) :
    (spawnPipeReader target role (fun _ => true) readings).flatMap deltaText = text ↔
      ∀ read, .bytes read ∈ readings → AtBoundary read := by
  obtain ⟨before, rfl, lasting⟩ := delivers.ended
  rw [spawnPipeReader, pipeReaderEvents_text target role 0 lasting,
    Utf8.lossy_pieces_iff delivers.whole]
  refine ⟨fun apart read member => ?_, fun apart piece member => ?_⟩
  · cases read with
    | nil => exact nofun
    | cons byte rest =>
      exact apart _ (List.mem_filterMap.mpr ⟨_, member, rfl⟩)
  · obtain ⟨reading, there, same⟩ := List.mem_filterMap.mp member
    cases reading with
    | bytes read =>
      obtain ⟨-, equal⟩ := Option.ite_none_left_eq_some.mp same
      exact Option.some.inj equal ▸ apart _ there
    | interrupted => cases same
    | failed error => cases same

def firstChat : AgentTarget := ⟨⟨1⟩, ⟨1⟩⟩

/-- Two letters of two bytes, read one letter at a time. -/
theorem deltas_whole_letters :
    (spawnPipeReader firstChat .assistant (fun _ => true)
      [.bytes [0xC3, 0xA9], .interrupted, .bytes [0xC3, 0xA8], .bytes []]).flatMap deltaText =
        ['é', 'è'] := by
  refine (deltas_whole_iff firstChat .assistant ⟨by decide, ?_, ?_⟩).mpr ?_
  · simp [readerBufferBytes]
  · exact ⟨[.bytes [0xC3, 0xA9], .interrupted, .bytes [0xC3, 0xA8]], rfl, by simp⟩
  · simp only [List.mem_cons, Reading.bytes.injEq, reduceCtorEq, List.not_mem_nil, or_false, false_or]
    rintro _ (rfl | rfl | rfl) byte ⟨⟩
    · decide
    · decide

/-- A letter of two bytes that come in two reads. -/
theorem letter_torn :
    Delivers (encode ['é']) [.bytes [0xC3], .bytes [0xA9], .bytes []] ∧
    (spawnPipeReader firstChat .assistant (fun _ => true)
      [.bytes [0xC3], .bytes [0xA9], .bytes []]).flatMap deltaText =
        [Utf8.replacementCharacter, Utf8.replacementCharacter] ∧
    [Utf8.replacementCharacter, Utf8.replacementCharacter] ≠ ['é'] := by
  refine ⟨⟨by decide, ?_, ?_⟩, by decide, by decide⟩
  · simp [readerBufferBytes]
  · exact ⟨[.bytes [0xC3], .bytes [0xA9]], rfl, by simp⟩

end Mult.App
