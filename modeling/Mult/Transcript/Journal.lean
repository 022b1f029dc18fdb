import Mult.Foundation.Lines
import Mult.Foundation.Machine
import Mult.Protocol.Messages
import Mult.Project.State

/-! The append-only journal of a chat's messages: appending a record, and reading the file
back when the journal is opened.
-/

set_option autoImplicit false

namespace Mult.Transcript
open Foundation Protocol Storage
open Project (ChatMessageRole)

def transcriptRecordVersion : Nat := 1
def maxTranscriptRecordBytes : Nat := 1024 * 1024
def maxTranscriptFileBytes : Nat := 64 * 1024 * 1024

def newline : UInt8 := 10

structure TranscriptRecord where
  version : Nat
  identity : SessionIdentity
  sequence : Nat
  role : ChatMessageRole
  text : String
  deriving DecidableEq, Repr

/-- How records are written as text and read back; a refusal carries its message. -/
structure Codec where
  encode : TranscriptRecord → Except String Bytes
  decode : Bytes → Except String TranscriptRecord

/-- Records are written on one line, never as nothing, and read back as they were. -/
structure Codec.Lawful (codec : Codec) : Prop where
  roundTrip : ∀ record encoded, codec.encode record = .ok encoded →
    codec.decode encoded = .ok record
  oneLine : ∀ record encoded, codec.encode record = .ok encoded → newline ∉ encoded
  nonempty : ∀ record encoded, codec.encode record = .ok encoded → encoded ≠ []

structure TranscriptJournal where
  path : String
  identity : SessionIdentity
  records : List TranscriptRecord
  nextSequence : Nat
  bytes : Nat
  deriving DecidableEq, Repr

/-- What may be done to a file whose final record is incomplete. -/
inductive TranscriptRecovery where
  | refuse
  | truncatePartialTail
  deriving DecidableEq, Repr

def sequenceExhausted : IoError := .invalidData "transcript sequence is exhausted"

def checkedAddOne (sequence : Nat) : Except IoError Nat :=
  if sequence + 1 < u64Bound then .ok (sequence + 1) else .error sequenceExhausted

/-- How far the write of a record gets: all of it, or fewer bytes and an error. -/
inductive WriteOutcome where
  | complete
  | failed (written : Nat) (error : IoError)
  deriving DecidableEq, Repr

/-- What the file operations of one append do. -/
structure AppendDisk where
  write : WriteOutcome
  sync : Option IoError
  deriving DecidableEq, Repr

variable (codec : Codec)

def TranscriptJournal.nextRecord (journal : TranscriptJournal) (role : ChatMessageRole)
    (text : String) : TranscriptRecord :=
  ⟨transcriptRecordVersion, journal.identity, journal.nextSequence, role, text⟩

/-- The bytes an append is to write and the size the journal then counts, unless the record
is refused before anything is written. -/
def TranscriptJournal.prepare (journal : TranscriptJournal) (record : TranscriptRecord) :
    Except IoError (Bytes × Nat) :=
  match codec.encode record with
  | .error message => .error (.invalidData message)
  | .ok text =>
    let encoded := text ++ [newline]
    if encoded.length > maxTranscriptRecordBytes then
      .error (.invalidData
        s!"transcript record exceeds {maxTranscriptRecordBytes} bytes for {journal.path}")
    else if journal.bytes + encoded.length ≥ u64Bound then
      .error (.invalidData "transcript size overflow")
    else if journal.bytes + encoded.length > maxTranscriptFileBytes then
      .error ⟨.storageFull,
        s!"transcript exceeds {maxTranscriptFileBytes} bytes for {journal.path}"⟩
    else .ok (encoded, journal.bytes + encoded.length)

/-- What `append` returns, with the journal and the file's contents after it. A failed
write leaves the bytes it got to behind, short of the last; nothing is taken back. -/
def TranscriptJournal.append (journal : TranscriptJournal) (contents : Bytes)
    (role : ChatMessageRole) (text : String) (disk : AppendDisk) :
    Except IoError Nat × TranscriptJournal × Bytes :=
  let record := journal.nextRecord role text
  match journal.prepare codec record with
  | .error error => (.error error, journal, contents)
  | .ok (encoded, newSize) =>
    match disk.write with
    -- What was written of the line stays in the file, and the journal does not count it.
    | .failed written error => (.error error, journal, contents ++ encoded.dropLast.take written)
    | .complete =>
      match disk.sync with
      -- The line is in the file, but it is not known to stay there.
      | some error => (.error error, journal, contents ++ encoded)
      | none =>
        let pushed := { journal with records := journal.records ++ [record] }
        match checkedAddOne journal.nextSequence with
        | .error error => (.error error, pushed, contents ++ encoded)
        | .ok nextSequence =>
          (.ok journal.nextSequence,
            { pushed with nextSequence := nextSequence, bytes := newSize }, contents ++ encoded)

/-- Which file operations of an open fail. -/
structure OpenDisk where
  prepare : Option IoError
  read : Option IoError
  truncate : Option IoError
  sync : Option IoError
  deriving DecidableEq, Repr

def OpenDisk.working : OpenDisk := ⟨none, none, none, none⟩

def checkRecord (identity : SessionIdentity) (expectedSequence : Nat) (encoded : Bytes) :
    Except IoError TranscriptRecord :=
  if encoded.isEmpty ∨ encoded.length + 1 > maxTranscriptRecordBytes then
    .error (.invalidData "transcript contains an empty or oversized complete record")
  else
    match codec.decode encoded with
    | .error message => .error (.invalidData message)
    | .ok record =>
      if record.version ≠ transcriptRecordVersion then
        .error (.invalidData s!"unsupported transcript record version {record.version}")
      else if record.identity ≠ identity then
        .error (.invalidData "transcript record belongs to another session identity")
      else if record.sequence ≠ expectedSequence then
        .error (.invalidData (s!"transcript sequence gap: expected {expectedSequence}, " ++
          s!"found {record.sequence}"))
      else .ok record

def scanRecords (identity : SessionIdentity) : Nat → List Bytes →
    Except IoError (List TranscriptRecord)
  | _, [] => .ok []
  | expectedSequence, encoded :: rest =>
    match checkRecord codec identity expectedSequence encoded with
    | .error error => .error error
    | .ok record =>
      match checkedAddOne expectedSequence with
      | .error error => .error error
      | .ok next => (scanRecords identity next rest).map (record :: ·)

def incompleteRecord : IoError :=
  .invalidData ("transcript has an incomplete final record; reopen with " ++
    "TranscriptRecovery::TruncatePartialTail to discard it")

/-- The records of the file and how many bytes they take, with the contents left behind. -/
def readAndRecover (identity : SessionIdentity) (recovery : TranscriptRecovery)
    (disk : OpenDisk) (contents : Bytes) :
    Except IoError (List TranscriptRecord × Nat) × Bytes :=
  match disk.read with
  | some error => (.error error, contents)
  | none =>
    let bytes := contents.take (maxTranscriptFileBytes + 1)
    if bytes.length > maxTranscriptFileBytes then
      (.error (.invalidData s!"transcript exceeds {maxTranscriptFileBytes} bytes"), contents)
    else
      let lastComplete := lastComplete newline bytes
      match scanRecords codec identity 1 (closedRecords newline (bytes.take lastComplete)) with
      | .error error => (.error error, contents)
      | .ok records =>
        -- Something follows the last newline: an append that was cut off.
        if lastComplete ≠ bytes.length then
          match recovery with
          | .refuse => (.error incompleteRecord, contents)
          | .truncatePartialTail =>
            match disk.truncate with
            | some error => (.error error, contents)
            | none =>
              match disk.sync with
              | some error => (.error error, contents.take lastComplete)
              | none => (.ok (records, lastComplete), contents.take lastComplete)
        else (.ok (records, lastComplete), contents)

def nextSequenceOf (records : List TranscriptRecord) : Except IoError Nat :=
  match records.getLast? with
  | none => .ok 1
  | some record => checkedAddOne record.sequence

def openWithRecovery (path : String) (identity : SessionIdentity)
    (recovery : TranscriptRecovery) (disk : OpenDisk) (contents : Bytes) :
    Except IoError TranscriptJournal × Bytes :=
  match disk.prepare with
  | some error => (.error error, contents)
  | none =>
    match readAndRecover codec identity recovery disk contents with
    | (.error error, left) => (.error error, left)
    | (.ok (records, bytes), left) =>
      match nextSequenceOf records with
      | .error error => (.error error, left)
      | .ok nextSequence => (.ok ⟨path, identity, records, nextSequence, bytes⟩, left)

/-- The journal's file, and the journal while it is open. -/
structure Store where
  contents : Bytes
  journal : Option TranscriptJournal
  deriving DecidableEq, Repr

inductive Action where
  | append (role : ChatMessageRole) (text : String) (disk : AppendDisk)
  | reopen (recovery : TranscriptRecovery) (disk : OpenDisk)
  deriving DecidableEq, Repr

/-- An append returned success with this sequence. -/
structure Event where
  sequence : Nat
  role : ChatMessageRole
  text : String
  deriving DecidableEq, Repr

def Store.append (store : Store) (role : ChatMessageRole) (text : String)
    (disk : AppendDisk) : Option (Store × List Event) :=
  store.journal.map fun journal =>
    match journal.append codec store.contents role text disk with
    | (.ok sequence, journal, contents) =>
      (⟨contents, some journal⟩, [⟨sequence, role, text⟩])
    | (.error _, journal, contents) => (⟨contents, some journal⟩, [])

def Store.reopen (path : String) (identity : SessionIdentity) (store : Store)
    (recovery : TranscriptRecovery) (disk : OpenDisk) : Store :=
  match openWithRecovery codec path identity recovery disk store.contents with
  | (.ok journal, contents) => ⟨contents, some journal⟩
  | (.error _, contents) => ⟨contents, none⟩

/-- The journal of one session from its empty file on; it can be closed and opened again
between any two appends. -/
def journal (path : String) (identity : SessionIdentity) : Machine Store Action Event where
  start store := store = ⟨[], none⟩
  step store
    | .append role text disk => store.append codec role text disk
    | .reopen recovery disk => some (store.reopen codec path identity recovery disk, [])

end Mult.Transcript
