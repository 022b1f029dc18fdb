import Mult.Foundation.Streams
import Mult.Protocol.Messages
import Mult.Storage.Io

/-! Messages on the wire: each behind the length of its encoding, in a frame of its own. -/

set_option autoImplicit false

namespace Mult.Protocol
open Foundation Storage

def maxMessageBytes : Nat := 16 * 1024 * 1024

/-- The serializer: how a message is encoded, and what is decoded from the front of some bytes,
with the bytes left unread. -/
structure Codec (T : Type) where
  toAllocvec : T → Except String Bytes
  takeFromBytes : Bytes → Except String (T × Bytes)

/-- What was encoded is decoded again, and what stands behind it is left unread. -/
def Codec.Inverse {T : Type} (codec : Codec T) : Prop :=
  ∀ message payload rest, codec.toAllocvec message = .ok payload →
    codec.takeFromBytes (payload ++ rest) = .ok (message, rest)

abbrev Reader := List (Arrival UInt8 IoError)
abbrev Writer := Sink UInt8 IoError

def endOfStream : IoError := ⟨.unexpectedEof, "failed to fill whole buffer"⟩
def writesNothing : IoError := ⟨.writeZero, "failed to write whole buffer"⟩

def u32Bound : Nat := 2 ^ 32

/-- `u32::to_be_bytes` -/
def toBeBytes (value : Nat) : Bytes :=
  [.ofNat (value / 2 ^ 24), .ofNat (value / 2 ^ 16), .ofNat (value / 2 ^ 8), .ofNat value]

/-- `u32::from_be_bytes` -/
def fromBeBytes (bytes : Bytes) : Nat := bytes.foldl (fun value byte => value * 256 + byte.toNat) 0

def messageTooLarge (kind : ErrorKind) (len : Nat) : IoError :=
  ⟨kind, s!"message too large: {len} bytes exceeds {maxMessageBytes} byte limit"⟩

def trailingBytes : IoError := .invalidData "message contains trailing bytes"

section
variable {T : Type} (codec : Codec T)

def readMessage (reader : Reader) : Except IoError T × Reader :=
  match readExact endOfStream 4 reader with
  | (.error error, reader) => (.error error, reader)
  | (.ok header, reader) =>
    let len := fromBeBytes header
    if len > maxMessageBytes then (.error (messageTooLarge .invalidData len), reader)
    else
      match readExact endOfStream len reader with
      | (.error error, reader) => (.error error, reader)
      | (.ok payload, reader) =>
        match codec.takeFromBytes payload with
        | .error error => (.error (.invalidData error), reader)
        | .ok (message, trailing) =>
          if trailing.isEmpty then (.ok message, reader) else (.error trailingBytes, reader)

def writeMessage (message : T) (writer : Writer) : Except IoError Unit × Writer :=
  match codec.toAllocvec message with
  | .error error => (.error (.invalidData error), writer)
  | .ok payload =>
    if payload.length > maxMessageBytes then
      (.error (messageTooLarge .invalidInput payload.length), writer)
    else if u32Bound ≤ payload.length then (.error ⟨.invalidInput, "message too large"⟩, writer)
    else
      match writer.writeAll writesNothing (toBeBytes payload.length) with
      | (.error error, writer) => (.error error, writer)
      | (.ok (), writer) =>
        match writer.writeAll writesNothing payload with
        | (.error error, writer) => (.error error, writer)
        | (.ok (), writer) => writer.flush

def readMessages : Nat → Reader → List (Except IoError T) × Reader
  | 0, reader => ([], reader)
  | count + 1, reader =>
      let (result, reader) := readMessage codec reader
      let (results, reader) := readMessages count reader
      (result :: results, reader)

/-- Successive writes, whatever each of them comes to. -/
def writeMessages : List T → Writer → List (Except IoError Unit) × Writer
  | [], writer => ([], writer)
  | message :: rest, writer =>
      let (result, writer) := writeMessage codec message writer
      let (results, writer) := writeMessages rest writer
      (result :: results, writer)

end

def frame (payload : Bytes) : Bytes := toBeBytes payload.length ++ payload

/-- The frame of a message whose encoding is within the limit. -/
def Codec.frame? {T : Type} (codec : Codec T) (message : T) : Option Bytes :=
  match codec.toAllocvec message with
  | .error _ => none
  | .ok payload => if payload.length ≤ maxMessageBytes then some (frame payload) else none

theorem toBeBytes_length (value : Nat) : (toBeBytes value).length = 4 := rfl

theorem fromBeBytes_toBeBytes {value : Nat} (small : value < u32Bound) :
    fromBeBytes (toBeBytes value) = value := by
  unfold u32Bound at small
  simp only [fromBeBytes, toBeBytes, List.foldl_cons, List.foldl_nil, UInt8.toNat_ofNat']
  omega

theorem maxMessageBytes_lt : maxMessageBytes < u32Bound := by decide

/-! ## One message -/

section
variable {T : Type} {codec : Codec T}

/-- The frame at the front of a stream: its header and payload are read, and no more. -/
theorem readMessage_frame (codec : Codec T) {reader : Reader} {payload rest : Bytes}
    (within : payload.length ≤ maxMessageBytes)
    (arrives : incoming reader = frame payload ++ rest) :
    ∃ after, incoming after = rest ∧ readMessage codec reader =
      match codec.takeFromBytes payload with
      | .error error => (.error (.invalidData error), after)
      | .ok (message, trailing) =>
        if trailing.isEmpty then (.ok message, after) else (.error trailingBytes, after) := by
  have small : payload.length < u32Bound := Nat.lt_of_le_of_lt within maxMessageBytes_lt
  have header : incoming reader = toBeBytes payload.length ++ (payload ++ rest) := by
    rw [arrives, frame, List.append_assoc]
  obtain ⟨middle, first, left⟩ := readExact_append endOfStream header
  obtain ⟨after, second, last⟩ := readExact_append endOfStream left
  rw [toBeBytes_length] at first
  refine ⟨after, last, ?_⟩
  have allowed : ¬ payload.length > maxMessageBytes := Nat.not_lt.mpr within
  unfold readMessage
  rw [first]
  dsimp only
  rw [fromBeBytes_toBeBytes small, if_neg allowed, second]

theorem readMessage_oversized (codec : Codec T) {reader : Reader} {header rest : Bytes}
    (four : header.length = 4) (beyond : maxMessageBytes < fromBeBytes header)
    (arrives : incoming reader = header ++ rest) :
    ∃ after, incoming after = rest ∧ readMessage codec reader =
      (.error (messageTooLarge .invalidData (fromBeBytes header)), after) := by
  obtain ⟨after, first, left⟩ := readExact_append endOfStream arrives
  rw [four] at first
  refine ⟨after, left, ?_⟩
  unfold readMessage
  rw [first]
  dsimp only
  rw [if_pos beyond]

theorem writeMessage_steady (codec : Codec T) (message : T) {writer : Writer}
    (steady : writer.Steady) :
    ∃ after, (writeMessage codec message writer).2 = after ∧ after.Steady ∧
      after.written = writer.written ++ (codec.frame? message).getD [] ∧
      ((writeMessage codec message writer).1 = .ok () ↔ (codec.frame? message).isSome) := by
  unfold writeMessage Codec.frame?
  cases encoded : codec.toAllocvec message with
  | error error => exact ⟨writer, rfl, steady, by simp, by simp⟩
  | ok payload =>
    dsimp only
    by_cases beyond : payload.length > maxMessageBytes
    · rw [if_pos beyond, if_neg (Nat.not_le.mpr beyond)]
      exact ⟨writer, rfl, steady, by simp, by simp⟩
    · have within := Nat.not_lt.mp beyond
      have small : payload.length < u32Bound := Nat.lt_of_le_of_lt within maxMessageBytes_lt
      obtain ⟨headed, header, first, onward⟩ :=
        steady.writeAll writesNothing (toBeBytes payload.length)
      obtain ⟨filled, body, second, further⟩ := onward.writeAll writesNothing payload
      obtain ⟨flushed, done, third, last⟩ := further.flush
      rw [if_neg beyond, if_neg (Nat.not_le.mpr small), header]
      dsimp only
      rw [body]
      dsimp only
      rw [done, if_pos within]
      refine ⟨flushed, rfl, last, ?_, by simp⟩
      rw [third, second, first, Option.getD_some, frame, List.append_assoc]

/-- Whatever the writer does, a message without a frame leaves it alone, and of any other a part of
the frame is taken: the whole of it where the message is written, and then it is flushed. -/
theorem writeMessage_taken (codec : Codec T) (message : T) (writer : Writer) :
    (codec.frame? message = none ∧ (∃ error, writeMessage codec message writer =
      (.error error, writer))) ∨
    ∃ taken rest, codec.frame? message = some (taken ++ rest) ∧
      (writeMessage codec message writer).2.written = writer.written ++ taken ∧
      ((writeMessage codec message writer).1 = .ok () → rest = [] ∧
        writer.flushes.head?.getD (.ok ()) = .ok ()) := by
  unfold writeMessage Codec.frame?
  cases encoded : codec.toAllocvec message with
  | error error => exact .inl ⟨rfl, _, rfl⟩
  | ok payload =>
    dsimp only
    by_cases beyond : payload.length > maxMessageBytes
    · rw [if_pos beyond, if_neg (Nat.not_le.mpr beyond)]
      exact .inl ⟨rfl, _, rfl⟩
    · have within := Nat.not_lt.mp beyond
      have small : payload.length < u32Bound := Nat.lt_of_le_of_lt within maxMessageBytes_lt
      rw [if_neg beyond, if_neg (Nat.not_le.mpr small), if_pos within]
      refine .inr ?_
      obtain ⟨header, short, headed, written, flushes, all⟩ :=
        Sink.writeAll_taken writesNothing (toBeBytes payload.length) writer
      cases first : writer.writeAll writesNothing (toBeBytes payload.length) with
      | mk result middle =>
        rw [first] at written flushes all
        cases result with
        | error error =>
          refine ⟨header, short ++ payload, ?_, written, nofun⟩
          rw [frame, headed, List.append_assoc]
        | ok done =>
          obtain ⟨body, left, split, further, pending, whole⟩ :=
            Sink.writeAll_taken writesNothing payload middle
          have taken : frame payload = header ++ body ++ left := by
            rw [frame, headed, all rfl, List.append_nil, List.append_assoc, ← split]
          dsimp only
          cases second : middle.writeAll writesNothing payload with
          | mk result after =>
            rw [second] at further pending whole
            have grown : after.written = writer.written ++ (header ++ body) := by
              rw [further, written, List.append_assoc]
            cases result with
            | error error => exact ⟨header ++ body, left, by rw [taken], grown, nofun⟩
            | ok done =>
              refine ⟨header ++ body, left, by rw [taken], grown, fun flushed => ⟨whole rfl, ?_⟩⟩
              rw [← flushes, ← pending]
              exact flushed

/-- The frames of the messages that have one, one behind the other. -/
def Codec.frames (codec : Codec T) (messages : List T) : List Bytes :=
  messages.filterMap codec.frame?

def Codec.framed (codec : Codec T) (messages : List T) : List T :=
  messages.filter fun message => (codec.frame? message).isSome

theorem writeMessages_steady (codec : Codec T) (messages : List T) {writer : Writer}
    (steady : writer.Steady) :
    (writeMessages codec messages writer).1.map Except.isOk =
        messages.map (fun message => (codec.frame? message).isSome) ∧
      (writeMessages codec messages writer).2.written =
        writer.written ++ (codec.frames messages).flatten := by
  induction messages generalizing writer with
  | nil => exact ⟨rfl, (List.append_nil _).symm⟩
  | cons message rest ih =>
    obtain ⟨after, same, onward, written, result⟩ := writeMessage_steady codec message steady
    subst same
    obtain ⟨results, others⟩ := ih onward
    constructor
    · have here : Except.isOk (writeMessage codec message writer).1 =
          (codec.frame? message).isSome := by
        rw [Bool.eq_iff_iff, ← result]
        cases (writeMessage codec message writer).1 with
        | error error => simp [Except.isOk, Except.toBool]
        | ok done => simp [Except.isOk, Except.toBool]
      simp only [writeMessages, List.map_cons, results, here]
    · simp only [writeMessages, others, written, Codec.frames, List.filterMap_cons]
      cases codec.frame? message with
      | none => simp
      | some frame => simp

theorem Codec.frame?_some {codec : Codec T} {message : T} {bytes : Bytes}
    (found : codec.frame? message = some bytes) :
    ∃ payload, codec.toAllocvec message = .ok payload ∧ payload.length ≤ maxMessageBytes ∧
      bytes = frame payload := by
  unfold Codec.frame? at found
  split at found
  · cases found
  · next payload encoded =>
    split at found
    · next within =>
      cases found
      exact ⟨payload, encoded, within, rfl⟩
    · cases found

theorem readMessages_frames (inverse : codec.Inverse) {messages : List T} {reader : Reader}
    {rest : Bytes} (arrives : incoming reader = (codec.frames messages).flatten ++ rest)
    {count : Nat} (few : count ≤ (codec.framed messages).length) :
    (readMessages codec count reader).1 = ((codec.framed messages).take count).map .ok ∧
      incoming (readMessages codec count reader).2 =
        ((codec.frames messages).drop count).flatten ++ rest := by
  induction messages generalizing reader count with
  | nil =>
    cases Nat.le_zero.mp few
    exact ⟨rfl, arrives⟩
  | cons message others ih =>
    cases found : codec.frame? message with
    | none =>
      simp only [Codec.frames, Codec.framed, List.filterMap_cons, List.filter_cons, found,
        Option.isSome_none] at arrives few ⊢
      exact ih arrives few
    | some bytes =>
      simp only [Codec.frames, Codec.framed, List.filterMap_cons, List.filter_cons, found,
        Option.isSome_some, if_true, List.flatten_cons, List.append_assoc,
        List.length_cons] at arrives few ⊢
      cases count with
      | zero => exact ⟨rfl, by simpa [readMessages] using arrives⟩
      | succ count =>
        obtain ⟨payload, encoded, within, same⟩ := Codec.frame?_some found
        rw [same] at arrives
        obtain ⟨after, left, result⟩ := readMessage_frame codec within arrives
        have decoded := inverse message payload [] encoded
        rw [List.append_nil] at decoded
        rw [decoded] at result
        obtain ⟨results, last⟩ := ih left (Nat.le_of_succ_le_succ few)
        simp only [readMessages, result, List.isEmpty_nil, if_true, List.take_succ_cons,
          List.map_cons, List.drop_succ_cons]
        exact ⟨by rw [results]; rfl, last⟩

end

/-- What is written is read back message by message however the stream is split; neither side
goes on with a message beyond the limit, and no frame may hold more than a message. -/
theorem framing_round_trip {T : Type} {codec : Codec T} (inverse : codec.Inverse) :
    (∀ messages (writer : Writer), writer.Steady →
      (writeMessages codec messages writer).1.map Except.isOk =
          messages.map (fun message => (codec.frame? message).isSome) ∧
        (writeMessages codec messages writer).2.written =
          writer.written ++ (codec.frames messages).flatten) ∧
    (∀ messages (reader : Reader) rest,
      incoming reader = (codec.frames messages).flatten ++ rest →
      ∀ count ≤ (codec.framed messages).length,
        (readMessages codec count reader).1 = ((codec.framed messages).take count).map .ok ∧
          incoming (readMessages codec count reader).2 =
            ((codec.frames messages).drop count).flatten ++ rest) ∧
    (∀ message payload writer, codec.toAllocvec message = .ok payload →
      maxMessageBytes < payload.length → writeMessage codec message writer =
        (.error (messageTooLarge .invalidInput payload.length), writer)) ∧
    (∀ (reader : Reader) header rest, header.length = 4 →
      maxMessageBytes < fromBeBytes header → incoming reader = header ++ rest →
      ∃ after, incoming after = rest ∧ readMessage codec reader =
        (.error (messageTooLarge .invalidData (fromBeBytes header)), after)) ∧
    ∀ (reader : Reader) message payload trailing rest, codec.toAllocvec message = .ok payload →
      trailing ≠ [] → (payload ++ trailing).length ≤ maxMessageBytes →
      incoming reader = frame (payload ++ trailing) ++ rest →
      ∃ after, incoming after = rest ∧ readMessage codec reader = (.error trailingBytes, after) := by
  refine ⟨fun messages _ steady => writeMessages_steady codec messages steady,
    fun _ _ _ arrives _ few => readMessages_frames inverse arrives few, ?_,
    fun _ _ _ four beyond arrives => readMessage_oversized codec four beyond arrives, ?_⟩
  · intro message payload writer encoded beyond
    simp only [writeMessage, encoded, if_pos (show payload.length > maxMessageBytes from beyond)]
  · intro reader message payload trailing rest encoded some within arrives
    obtain ⟨after, left, result⟩ := readMessage_frame codec within arrives
    refine ⟨after, left, ?_⟩
    rw [result, inverse message payload trailing encoded]
    exact if_neg (by simpa using some)

/-- The serializer on an enumeration: the number of the variant. -/
def leaseOperationCodec : Codec LeaseOperation where
  toAllocvec operation :=
    match operation with
    | .input => .ok [0]
    | .paste => .ok [1]
    | .resize => .ok [2]
    | .detach => .ok [3]
  takeFromBytes bytes :=
    match bytes with
    | 0 :: rest => .ok (.input, rest)
    | 1 :: rest => .ok (.paste, rest)
    | 2 :: rest => .ok (.resize, rest)
    | 3 :: rest => .ok (.detach, rest)
    | _ => .error "no such variant"

theorem leaseOperationCodec_inverse : leaseOperationCodec.Inverse := by
  intro operation payload rest encoded
  cases operation <;> cases encoded <;> rfl

/-- Two frames that arrive in four pieces. -/
def splitReader : Reader :=
  [.bytes [0, 0] (by simp), .interrupted, .bytes [0, 1, 1, 0] (by simp), .bytes [0, 0] (by simp),
    .bytes [1, 3] (by simp)]

theorem framing_round_trip_split :
    (readMessages leaseOperationCodec 2 splitReader).1 = [.ok .paste, .ok .detach] ∧
      incoming (readMessages leaseOperationCodec 2 splitReader).2 = [] :=
  (framing_round_trip leaseOperationCodec_inverse).2.1 [.paste, .detach] splitReader [] (by decide)
    2 (by decide)

end Mult.Protocol
