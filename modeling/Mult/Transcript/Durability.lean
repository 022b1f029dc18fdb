import Mult.Transcript.Journal

/-! What is read back from a journal: the records whose append returned success, as long as
no refused append left its record whole and nothing was written whole behind a torn one.
-/

set_option autoImplicit false

namespace Mult.Transcript
open Foundation Protocol Storage
open Project (ChatMessageRole)

variable {codec : Codec} {path : String} {identity : SessionIdentity}

/-- The record an append that returned success has written. -/
def Event.record (identity : SessionIdentity) (event : Event) : TranscriptRecord :=
  ⟨transcriptRecordVersion, identity, event.sequence, event.role, event.text⟩

/-- The line that holds an accepted record. -/
structure Line (codec : Codec) (identity : SessionIdentity) (encoded : Bytes)
    (event : Event) : Prop where
  written : codec.encode (event.record identity) = .ok encoded
  small : encoded.length + 1 ≤ maxTranscriptRecordBytes

/-- The file as the accepted records and at most one torn record behind them. -/
structure Holds (codec : Codec) (identity : SessionIdentity) (past : List Event)
    (contents : Bytes) (lines : List Bytes) (tail : Bytes) : Prop where
  split : contents = joined newline lines ++ tail
  torn : newline ∉ tail
  written : List.Forall₂ (Line codec identity) lines past
  numbered : past.map Event.sequence = List.range' 1 past.length
  small : contents.length ≤ maxTranscriptFileBytes

/-- What an open journal believes about its file. -/
structure Describes (identity : SessionIdentity) (past : List Event) (contents : Bytes)
    (journal : TranscriptJournal) : Prop where
  identity_eq : journal.identity = identity
  records : journal.records = past.map (Event.record identity)
  nextSequence : journal.nextSequence = past.length + 1
  bytes : journal.bytes = lastComplete newline contents

/-! ## Reading back -/

theorem checkedAddOne_ok {sequence : Nat} (bounded : sequence + 1 < u64Bound) :
    checkedAddOne sequence = .ok (sequence + 1) :=
  if_pos bounded

theorem checkRecord_line (lawful : codec.Lawful) {encoded : Bytes} {event : Event}
    (line : Line codec identity encoded event) :
    checkRecord codec identity event.sequence encoded = .ok (event.record identity) := by
  have nonempty := lawful.nonempty _ _ line.written
  have sized : ¬ (encoded.isEmpty ∨ encoded.length + 1 > maxTranscriptRecordBytes) := by
    rintro (empty | large)
    · exact nonempty (List.isEmpty_iff.mp empty)
    · exact absurd line.small (by omega)
  unfold checkRecord
  rw [if_neg sized, lawful.roundTrip _ _ line.written]
  simp [Event.record]

theorem scanRecords_lines (lawful : codec.Lawful) {lines : List Bytes} {past : List Event}
    (written : List.Forall₂ (Line codec identity) lines past) (first : Nat)
    (numbered : past.map Event.sequence = List.range' first past.length)
    (bounded : first + past.length < u64Bound) :
    scanRecords codec identity first lines = .ok (past.map (Event.record identity)) := by
  induction written generalizing first with
  | nil => rfl
  | @cons encoded event lines rest line _ ih =>
    simp only [List.map_cons, List.length_cons, List.range'_succ, List.cons.injEq] at numbered
    obtain ⟨same, numbered⟩ := numbered
    rw [List.length_cons] at bounded
    have onward := ih (first + 1) numbered (by omega)
    have checked := checkRecord_line lawful line
    rw [same] at checked
    simp only [scanRecords, checked, checkedAddOne_ok (show first + 1 < u64Bound by omega), onward]
    rfl

namespace Holds

variable {past : List Event} {contents : Bytes} {lines : List Bytes} {tail : Bytes}

theorem lastComplete_eq (holds : Holds codec identity past contents lines tail) :
    lastComplete newline contents = (joined newline lines).length := by
  rw [holds.split]
  exact lastComplete_joined newline holds.torn

theorem complete (holds : Holds codec identity past contents lines tail) :
    contents.take (lastComplete newline contents) = joined newline lines := by
  rw [holds.lastComplete_eq, holds.split, List.take_left]

/-- There are never more records than bytes, so the sequence numbers do not run out. -/
theorem bounded (holds : Holds codec identity past contents lines tail) :
    past.length ≤ maxTranscriptFileBytes := by
  have enough := length_le_length_joined newline lines
  have small := holds.small
  rw [holds.split, List.length_append] at small
  rw [← holds.written.length_eq]
  omega

theorem scanned (lawful : codec.Lawful)
    (holds : Holds codec identity past contents lines tail) :
    scanRecords codec identity 1 (closedRecords newline (joined newline lines)) =
      .ok (past.map (Event.record identity)) := by
  have clean : ∀ line ∈ lines, newline ∉ line := by
    intro line member
    obtain ⟨position, bound, rfl⟩ := List.getElem_of_mem member
    exact lawful.oneLine _ _ (holds.written.get bound (holds.written.length_eq ▸ bound)).written
  rw [closedRecords_joined newline clean]
  have bounded := holds.bounded
  apply scanRecords_lines lawful holds.written 1 holds.numbered
  simp only [u64Bound, maxTranscriptFileBytes] at bounded ⊢
  omega

theorem truncate (holds : Holds codec identity past contents lines tail) :
    Holds codec identity past (contents.take (lastComplete newline contents))
      lines [] where
  split := by rw [holds.complete, List.append_nil]
  torn := List.not_mem_nil
  written := holds.written
  numbered := holds.numbered
  small := by
    have small := holds.small
    rw [List.length_take]
    omega

end Holds

/-- What reading a file back leaves of it, and what it finds there. -/
structure Recovered (codec : Codec) (identity : SessionIdentity) (past : List Event)
    (result : Except IoError (List TranscriptRecord × Nat) × Bytes) : Prop where
  kept : ∃ lines tail, Holds codec identity past result.2 lines tail
  read : ∀ records bytes, result.1 = .ok (records, bytes) →
    records = past.map (Event.record identity) ∧ bytes = lastComplete newline result.2

theorem Recovered.refused {past : List Event} {contents : Bytes} {lines : List Bytes}
    {tail : Bytes} {error : IoError} (holds : Holds codec identity past contents lines tail) :
    Recovered codec identity past (.error error, contents) :=
  ⟨⟨lines, tail, holds⟩, nofun⟩

theorem Recovered.accepted {past : List Event} {contents : Bytes} {lines : List Bytes}
    {tail : Bytes} (holds : Holds codec identity past contents lines tail) :
    Recovered codec identity past
      (.ok (past.map (Event.record identity), lastComplete newline contents), contents) := by
  refine ⟨⟨lines, tail, holds⟩, ?_⟩
  intro records bytes found
  cases found
  exact ⟨rfl, rfl⟩

theorem Holds.readAndRecover {past : List Event} {contents : Bytes} {lines : List Bytes}
    {tail : Bytes} (holds : Holds codec identity past contents lines tail)
    (lawful : codec.Lawful) (recovery : TranscriptRecovery) (disk : OpenDisk) :
    Recovered codec identity past (readAndRecover codec identity recovery disk contents) := by
  have small := holds.small
  have whole : contents.take (maxTranscriptFileBytes + 1) = contents :=
    List.take_of_length_le (by omega)
  have truncated := holds.truncate
  have settled : lastComplete newline (contents.take (lastComplete newline contents)) =
      lastComplete newline contents := by
    rw [truncated.lastComplete_eq, holds.lastComplete_eq]
  unfold Transcript.readAndRecover
  cases disk.read with
  | some error => exact .refused holds
  | none =>
    simp only [whole, if_neg (show ¬ contents.length > maxTranscriptFileBytes by omega),
      holds.complete, holds.scanned lawful]
    split
    · cases recovery with
      | refuse => exact .refused holds
      | truncatePartialTail =>
        cases disk.truncate with
        | some error => exact .refused holds
        | none =>
          cases disk.sync with
          | some error => exact .refused (holds.complete ▸ truncated)
          | none =>
            have accepted := Recovered.accepted truncated
            rw [settled, holds.complete] at accepted
            exact accepted
    · exact .accepted holds

theorem nextSequenceOf_numbered {past : List Event} {records : List TranscriptRecord}
    (read : records = past.map (Event.record identity))
    (numbered : past.map Event.sequence = List.range' 1 past.length)
    (bounded : past.length + 1 < u64Bound) :
    nextSequenceOf records = .ok (past.length + 1) := by
  subst read
  have last := congrArg List.getLast? numbered
  rw [List.getLast?_map, List.getLast?_range'] at last
  unfold nextSequenceOf
  rw [List.getLast?_map]
  cases found : past.getLast? with
  | none =>
    have empty := List.getLast?_eq_none_iff.mp found
    subst empty
    rfl
  | some event =>
    have nonempty : past.length ≠ 0 := by
      intro none
      rw [List.length_eq_zero_iff.mp none] at found
      cases found
    rw [found, if_neg nonempty] at last
    have same : event.sequence = past.length := by
      simp only [Option.map_some, Option.some.injEq] at last
      omega
    simp only [Option.map_some, Event.record, same]
    exact checkedAddOne_ok bounded

/-- What opening a journal leaves of its file, and what the opened journal knows. -/
structure Opened (codec : Codec) (identity : SessionIdentity) (past : List Event)
    (result : Except IoError TranscriptJournal × Bytes) : Prop where
  kept : ∃ lines tail, Holds codec identity past result.2 lines tail
  describes : ∀ journal, result.1 = .ok journal → Describes identity past result.2 journal

theorem Holds.openWithRecovery {past : List Event} {contents : Bytes} {lines : List Bytes}
    {tail : Bytes} (holds : Holds codec identity past contents lines tail)
    (lawful : codec.Lawful) (recovery : TranscriptRecovery) (disk : OpenDisk) :
    Opened codec identity past
      (openWithRecovery codec path identity recovery disk contents) := by
  have bounded := holds.bounded
  have recovered := holds.readAndRecover lawful recovery disk
  unfold Transcript.openWithRecovery
  cases disk.prepare with
  | some error => exact ⟨⟨lines, tail, holds⟩, nofun⟩
  | none =>
    revert recovered
    rcases Transcript.readAndRecover codec identity recovery disk contents with ⟨outcome, left⟩
    intro recovered
    cases outcome with
    | error error => exact ⟨recovered.kept, nofun⟩
    | ok found =>
      obtain ⟨records, bytes⟩ := found
      obtain ⟨read, counted⟩ := recovered.read records bytes rfl
      have next := nextSequenceOf_numbered read holds.numbered
        (by simp only [u64Bound, maxTranscriptFileBytes] at bounded ⊢; omega)
      simp only [next]
      refine ⟨recovered.kept, ?_⟩
      intro journal same
      cases same
      exact ⟨rfl, read, rfl, counted⟩

/-! ## Appending -/

/-- A record whose write completes is synced and starts a line of its own; the pieces that
failed writes leave behind stay within what can be read back. -/
def AppendDisk.keeps (contents encoded : Bytes) (disk : AppendDisk) : Prop :=
  match disk.write with
  | .failed written _ =>
    (contents ++ encoded.dropLast.take written).length ≤ maxTranscriptFileBytes
  | .complete => disk.sync = none ∧ lastComplete newline contents = contents.length

instance (contents encoded : Bytes) (disk : AppendDisk) :
    Decidable (disk.keeps contents encoded) := by
  unfold AppendDisk.keeps
  cases disk.write <;> infer_instance

/-- The steps after which the file holds the accepted records: a record that passes the
checks of its append is kept by the disk. -/
def Keeps (codec : Codec) (store : Store) : Action → Prop
  | .reopen .. => True
  | .append role text disk => ∀ journal ∈ store.journal,
      ∀ ready ∈ (journal.prepare codec (journal.nextRecord role text)).toOption,
        disk.keeps store.contents ready.1

instance (codec : Codec) (store : Store) (action : Action) :
    Decidable (Keeps codec store action) := by
  cases action with
  | reopen => exact inferInstanceAs (Decidable True)
  | append role text disk =>
    exact inferInstanceAs (Decidable (∀ journal ∈ store.journal, ∀ ready ∈
      (journal.prepare codec (journal.nextRecord role text)).toOption,
        disk.keeps store.contents ready.1))

/-- What the checks before a write have shown. -/
structure Prepared (codec : Codec) (journal : TranscriptJournal) (record : TranscriptRecord)
    (encoded : Bytes) (newSize : Nat) (text : Bytes) : Prop where
  written : codec.encode record = .ok text
  encoded_eq : encoded = text ++ [newline]
  small : text.length + 1 ≤ maxTranscriptRecordBytes
  newSize_eq : newSize = journal.bytes + (text.length + 1)
  fits : newSize ≤ maxTranscriptFileBytes

theorem TranscriptJournal.prepare_ok {journal : TranscriptJournal} {record : TranscriptRecord}
    {encoded : Bytes} {newSize : Nat}
    (prepared : journal.prepare codec record = .ok (encoded, newSize)) :
    ∃ text, Prepared codec journal record encoded newSize text := by
  unfold TranscriptJournal.prepare at prepared
  split at prepared
  · cases prepared
  · next text written =>
    have sized : (text ++ [newline]).length = text.length + 1 := by simp
    simp only [sized] at prepared
    split at prepared
    · cases prepared
    · split at prepared
      · cases prepared
      · split at prepared
        · cases prepared
        · cases prepared
          exact ⟨text, written, rfl, by omega, rfl, by omega⟩

theorem Holds.tear {past : List Event} {contents : Bytes} {lines : List Bytes} {tail : Bytes}
    (holds : Holds codec identity past contents lines tail) {piece : Bytes}
    (clean : newline ∉ piece) (fits : (contents ++ piece).length ≤ maxTranscriptFileBytes) :
    Holds codec identity past (contents ++ piece) lines (tail ++ piece) where
  split := by rw [holds.split, List.append_assoc]
  torn := by
    intro member
    rcases List.mem_append.mp member with earlier | added
    · exact holds.torn earlier
    · exact clean added
  written := holds.written
  numbered := holds.numbered
  small := fits

theorem Holds.push {past : List Event} {contents : Bytes} {lines : List Bytes} {tail : Bytes}
    (holds : Holds codec identity past contents lines tail) {text : Bytes} {event : Event}
    (closed : lastComplete newline contents = contents.length)
    (line : Line codec identity text event) (next : event.sequence = past.length + 1)
    (fits : contents.length + (text.length + 1) ≤ maxTranscriptFileBytes) :
    Holds codec identity (past ++ [event]) (contents ++ (text ++ [newline]))
      (lines ++ [text]) [] where
  split := by
    have whole := holds.complete
    rw [closed, List.take_length] at whole
    rw [joined_append, joined_singleton, List.append_nil, whole]
  torn := List.not_mem_nil
  written := List.rel_append holds.written (.cons line .nil)
  numbered := by
    simp only [List.map_append, holds.numbered, List.map_cons, List.map_nil, next,
      List.length_append, List.length_cons, List.length_nil, List.range'_concat]
    congr 2
    omega
  small := by
    simp only [List.length_append, List.length_cons, List.length_nil]
    omega

/-- The file holds the accepted records, and an open journal agrees with it. -/
structure Sound (codec : Codec) (identity : SessionIdentity) (store : Store)
    (past : List Event) : Prop where
  file : ∃ lines tail, Holds codec identity past store.contents lines tail
  opened : ∀ journal, store.journal = some journal →
    Describes identity past store.contents journal

theorem Sound.append {store next : Store} {past events : List Event} {role : ChatMessageRole}
    {text : String} {disk : AppendDisk} (sound : Sound codec identity store past)
    (lawful : codec.Lawful) (keeps : Keeps codec store (.append role text disk))
    (stepped : store.append codec role text disk = some (next, events)) :
    Sound codec identity next (past ++ events) := by
  obtain ⟨lines, tail, holds⟩ := sound.file
  obtain ⟨journal, opened, stepped⟩ := Option.map_eq_some_iff.mp stepped
  have describes := sound.opened journal opened
  have ready := keeps journal opened
  unfold TranscriptJournal.append at stepped
  cases prepared : journal.prepare codec (journal.nextRecord role text) with
  | error error =>
    simp only [prepared] at stepped
    cases stepped
    -- The record does not pass the checks: nothing was written.
    rw [List.append_nil]
    refine ⟨⟨lines, tail, holds⟩, ?_⟩
    intro other same
    cases same
    exact describes
  | ok found =>
    obtain ⟨encoded, newSize⟩ := found
    obtain ⟨line, passed⟩ := TranscriptJournal.prepare_ok prepared
    have kept := ready (encoded, newSize) (by rw [prepared]; rfl)
    simp only [prepared] at stepped
    have whole : encoded.dropLast = line := by rw [passed.encoded_eq, List.dropLast_concat]
    cases outcome : disk.write with
    | failed written error =>
      simp only [AppendDisk.keeps, outcome, whole] at kept
      simp only [outcome, whole] at stepped
      cases stepped
      rw [List.append_nil]
      -- A piece of the line was written. It holds no newline, so it stays behind the last line.
      have clean : newline ∉ line.take written :=
        fun member => lawful.oneLine _ _ passed.written (List.mem_of_mem_take member)
      have torn := holds.tear clean kept
      refine ⟨⟨lines, _, torn⟩, ?_⟩
      intro other same
      cases same
      refine { describes with bytes := ?_ }
      rw [describes.bytes, torn.lastComplete_eq, holds.lastComplete_eq]
    | complete =>
      simp only [AppendDisk.keeps, outcome] at kept
      obtain ⟨synced, closed⟩ := kept
      have bounded := holds.bounded
      have room : journal.nextSequence + 1 < u64Bound := by
        rw [describes.nextSequence]
        simp only [u64Bound, maxTranscriptFileBytes] at bounded ⊢
        omega
      simp only [outcome, synced, checkedAddOne_ok room] at stepped
      cases stepped
      -- The whole line was written, behind a file that ends with a line.
      let event : Event := ⟨journal.nextSequence, role, text⟩
      have record : journal.nextRecord role text = event.record identity := by
        rw [← describes.identity_eq]
        rfl
      have fits := passed.fits
      rw [passed.newSize_eq, describes.bytes, closed] at fits
      have pushed := holds.push closed ⟨record ▸ passed.written, passed.small⟩
        (show event.sequence = _ from describes.nextSequence) fits
      rw [← passed.encoded_eq] at pushed
      refine ⟨⟨_, _, pushed⟩, ?_⟩
      intro other same
      cases same
      refine ⟨describes.identity_eq, ?_, ?_, ?_⟩
      · simp only [describes.records, record, List.map_append, List.map_cons, List.map_nil, event]
      · simp only [describes.nextSequence, List.length_append, List.length_cons, List.length_nil]
      · rw [pushed.lastComplete_eq, passed.newSize_eq, describes.bytes, joined_append,
          joined_singleton, holds.lastComplete_eq]
        simp

theorem Sound.reopen {store : Store} {past : List Event} (sound : Sound codec identity store past)
    (lawful : codec.Lawful) (recovery : TranscriptRecovery) (disk : OpenDisk) :
    Sound codec identity (store.reopen codec path identity recovery disk) past := by
  obtain ⟨lines, tail, holds⟩ := sound.file
  have opened : Opened codec identity past
      (openWithRecovery codec path identity recovery disk store.contents) :=
    holds.openWithRecovery lawful recovery disk
  unfold Store.reopen
  revert opened
  rcases openWithRecovery codec path identity recovery disk store.contents with ⟨outcome, left⟩
  intro opened
  cases outcome with
  | error error => exact ⟨opened.kept, nofun⟩
  | ok journal =>
    refine ⟨opened.kept, ?_⟩
    intro other same
    cases same
    exact opened.describes journal rfl

theorem Sound.start : Sound codec identity ⟨[], none⟩ [] where
  file := ⟨[], [], rfl, List.not_mem_nil, .nil, rfl, Nat.zero_le _⟩
  opened := nofun

theorem sound_of_run (lawful : codec.Lawful) {store : Store} {past : List Event}
    (run : (journal codec path identity).Run (Keeps codec) store past) :
    Sound codec identity store past := by
  induction run with
  | start initial =>
    cases initial
    exact .start
  | @step _ _ _ _ action _ keeps stepped sound =>
    cases action with
    | append role text disk => exact sound.append lawful keeps stepped
    | reopen recovery disk =>
      cases stepped
      rw [List.append_nil]
      exact sound.reopen lawful recovery disk

/-- Opening the file with its torn tail cut off finds exactly the accepted records. -/
def ReadsBack (codec : Codec) (path : String) (identity : SessionIdentity) (store : Store)
    (past : List Event) : Prop :=
  ∃ opened contents, openWithRecovery codec path identity .truncatePartialTail .working
      store.contents = (.ok opened, contents) ∧
    opened.records = past.map (Event.record identity) ∧
    opened.records.map TranscriptRecord.sequence = List.range' 1 past.length

theorem Holds.recovers {past : List Event} {contents : Bytes} {lines : List Bytes}
    {tail : Bytes} (holds : Holds codec identity past contents lines tail)
    (lawful : codec.Lawful) :
    ∃ bytes left, Transcript.readAndRecover codec identity .truncatePartialTail .working
      contents = (.ok (past.map (Event.record identity), bytes), left) := by
  have small := holds.small
  have whole : contents.take (maxTranscriptFileBytes + 1) = contents :=
    List.take_of_length_le (by omega)
  simp only [OpenDisk.working, Transcript.readAndRecover, whole,
    if_neg (show ¬ contents.length > maxTranscriptFileBytes by omega), holds.complete,
    holds.scanned lawful]
  split
  · exact ⟨_, _, rfl⟩
  · exact ⟨_, _, rfl⟩

theorem Holds.opens {past : List Event} {contents : Bytes} {lines : List Bytes} {tail : Bytes}
    (holds : Holds codec identity past contents lines tail) (lawful : codec.Lawful) :
    ∃ opened left, Transcript.openWithRecovery codec path identity .truncatePartialTail .working
      contents = (.ok opened, left) := by
  have bounded := holds.bounded
  have next : nextSequenceOf (past.map (Event.record identity)) = .ok (past.length + 1) :=
    nextSequenceOf_numbered rfl holds.numbered
      (by simp only [u64Bound, maxTranscriptFileBytes] at bounded ⊢; omega)
  obtain ⟨bytes, left, recovered⟩ := holds.recovers lawful
  refine ⟨⟨path, identity, past.map (Event.record identity), past.length + 1, bytes⟩, left, ?_⟩
  simp only [Transcript.openWithRecovery, recovered, next]
  rfl

/-- In every run in which no refused append leaves its record whole and no record is written
whole behind a torn one, what is read back is what was accepted. -/
theorem accepted_records_read_back (lawful : codec.Lawful) {store : Store} {past : List Event}
    (run : (journal codec path identity).Run (Keeps codec) store past) :
    ReadsBack codec path identity store past := by
  obtain ⟨lines, tail, holds⟩ := (sound_of_run lawful run).file
  have opens : ∃ opened left, openWithRecovery codec path identity .truncatePartialTail .working
      store.contents = (.ok opened, left) := holds.opens lawful
  obtain ⟨opened, left, succeeded⟩ := opens
  have knows : Opened codec identity past
      (openWithRecovery codec path identity .truncatePartialTail .working store.contents) :=
    holds.openWithRecovery lawful .truncatePartialTail .working
  rw [succeeded] at knows
  have describes := knows.describes opened rfl
  refine ⟨opened, left, succeeded, describes.records, ?_⟩
  rw [describes.records, List.map_map]
  exact holds.numbered

def sampleIdentity : SessionIdentity := ⟨⟨1, bytes_one⟩, ⟨2, bytes_two⟩⟩

def sampleFirst : TranscriptRecord := ⟨1, sampleIdentity, 1, .user, "question"⟩
def sampleSecond : TranscriptRecord := ⟨1, sampleIdentity, 2, .assistant, "answer"⟩

def sampleLine (sequence role text : String) : Bytes :=
  let json := ["\x7b\"version\":1,", "\"identity\":\x7b\"namespace\":\"",
    "0000000000000000", "0000000000000001", "\",\"token\":\"", "0000000000000000",
    "0000000000000002", "\"\x7d,\"sequence\":", sequence, ",\"role\":\"", role,
    "\",\"text\":\"", text, "\"\x7d"]
  json.flatMap fun part => part.toList.map fun character => character.toNat.toUInt8

def sampleFirstLine : Bytes := sampleLine "1" "User" "question"
def sampleSecondLine : Bytes := sampleLine "2" "Assistant" "answer"

def sampleCodec : Codec where
  encode record :=
    if record = sampleFirst then .ok sampleFirstLine
    else if record = sampleSecond then .ok sampleSecondLine
    else .error "not a sample record"
  decode encoded :=
    if encoded = sampleFirstLine then .ok sampleFirst
    else if encoded = sampleSecondLine then .ok sampleSecond
    else .error "trailing characters"

theorem sampleCodec_encoded {record : TranscriptRecord} {encoded : Bytes}
    (written : sampleCodec.encode record = .ok encoded) :
    record = sampleFirst ∧ sampleFirstLine = encoded ∨
      record = sampleSecond ∧ sampleSecondLine = encoded := by
  simp only [sampleCodec] at written
  split at written
  · next first => exact .inl ⟨first, Except.ok.inj written⟩
  · split at written
    · next second => exact .inr ⟨second, Except.ok.inj written⟩
    · nomatch written

theorem sampleCodec_lawful : sampleCodec.Lawful where
  roundTrip record encoded written := by
    rcases sampleCodec_encoded written with ⟨first, line⟩ | ⟨second, line⟩
    · rw [first, ← line]
      decide +kernel
    · rw [second, ← line]
      decide +kernel
  oneLine record encoded written := by
    rcases sampleCodec_encoded written with ⟨_, line⟩ | ⟨_, line⟩
    · rw [← line]
      decide
    · rw [← line]
      decide
  nonempty record encoded written := by
    rcases sampleCodec_encoded written with ⟨_, line⟩ | ⟨_, line⟩
    · rw [← line]
      decide
    · rw [← line]
      decide

def diskFull : IoError := ⟨.storageFull, "No space left on device (os error 28)"⟩
def syncFailed : IoError := ⟨.other, "Input/output error (os error 5)"⟩

/-- The first write stops short; the journal is opened again and the same message is appended,
then an answer. -/
def sampleActions : List Action :=
  [.reopen .refuse .working,
    .append .user "question" ⟨.failed 20 diskFull, none⟩,
    .reopen .truncatePartialTail .working,
    .append .user "question" ⟨.complete, none⟩,
    .append .assistant "answer" ⟨.complete, none⟩]

theorem accepted_records_read_back_sample : ∃ store past,
    past.map Event.sequence = [1, 2] ∧
      ReadsBack sampleCodec "chat.jsonl" sampleIdentity store past := by
  obtain ⟨store, past, run, accepted⟩ :=
    (journal sampleCodec "chat.jsonl" sampleIdentity).exists_run (Keeps sampleCodec) rfl
      sampleActions (fun _ past => decide (past.map Event.sequence = [1, 2])) (by decide +kernel)
  exact ⟨store, past, of_decide_eq_true accepted,
    accepted_records_read_back sampleCodec_lawful run⟩

/-- A sync fails behind a whole record; the message is appended again under the same sequence,
and from then on the file is refused. -/
theorem accepted_records_lost : ¬ ∀ (codec : Codec) (path : String) (identity : SessionIdentity)
    (store : Store) (past : List Event), codec.Lawful →
    (journal codec path identity).Reaches store past →
    ReadsBack codec path identity store past := by
  intro claim
  obtain ⟨store, past, run, refused⟩ :=
    (journal sampleCodec "chat.jsonl" sampleIdentity).exists_reaches rfl
      [.reopen .refuse .working, .append .user "question" ⟨.complete, some syncFailed⟩,
        .append .user "question" ⟨.complete, none⟩]
      (fun store past => past.length = 1 ∧
        (openWithRecovery sampleCodec "chat.jsonl" sampleIdentity .truncatePartialTail .working
          store.contents).1.toOption = none) (by decide +kernel)
  obtain ⟨opened, contents, succeeded, -⟩ := claim _ _ _ _ _ sampleCodec_lawful run
  simp [succeeded, Except.toOption] at refused

end Mult.Transcript
