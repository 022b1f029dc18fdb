import Mult.Foundation.Traces
import Mult.Runtime.StatusForwarding

/-! A status journal read while it is appended to, byte by byte, also between the look at its
metadata and the read that follows.
-/

set_option autoImplicit false

namespace Mult.Runtime
open Foundation Project
open Protocol (SessionIdentity AgentGeneration)

/-! ## Polls of a journal that grows -/

def StatusFile.append (file : StatusFile) (fragment : List UInt8) : StatusFile :=
  { file with bytes := file.bytes ++ fragment }

/-- Reading a journal that grows behind its metadata. -/
def StatusHost.readGrown (host : StatusHost) (file : Option StatusFile) (grown : List UInt8)
    (fault : Option ReadFault) (cursor : AgentStatusCursor) :
    Option (List (MultAgentStatusRecord × Nat)) × AgentStatusCursor :=
  if fault = some .opening then (none, cursor)
  else
    match file with
    | none => (some [], cursor)
    | some file =>
      if host.accepts file then
        let cursor := cursor.follow file
        if fault = some .reading then (none, cursor)
        else
          let remaining := maxStatusFileBytes - cursor.offset
          let bytes := ((file.append grown).bytes.drop cursor.offset).take (remaining + 1)
          if remaining < bytes.length then (none, cursor)
          else (host.parseLines cursor.offset (lines newline bytes), cursor)
      else (none, cursor)

namespace JournalStatusSource

def pollRead (source : JournalStatusSource)
    (read : AgentStatusCursor → Option (List (MultAgentStatusRecord × Nat)) × AgentStatusCursor)
    (live : LiveAgent) : List MultAgentStatusRecord × JournalStatusSource :=
  let journal := source.journalFor live
  match read journal.cursor with
  | (none, cursor) => ([], Function.update source live.chat (some { journal with cursor }))
  | (some records, cursor) =>
    let offset := records.getLast?.elim cursor.offset Prod.snd
    (records.map Prod.fst,
      Function.update source live.chat (some { journal with cursor := { cursor with offset } }))

theorem pollRead_eq (source : JournalStatusSource) (host : StatusHost) (file : Option StatusFile)
    (fault : Option ReadFault) (live : LiveAgent) :
    source.pollRead (host.readMultAgentStatusRecords file fault) live =
      source.poll host file fault live := rfl

end JournalStatusSource

/-- A journal, if it is there yet, and what has been read of the journals. -/
structure Watched where
  file : Option StatusFile
  source : JournalStatusSource

inductive JournalStep where
  | create (file : StatusFile)
  | append (fragment : List UInt8)
  /-- What is appended while the poll goes on, and where it fails. -/
  | poll (grown : List UInt8) (fault : Option ReadFault)
  | pollOther (other : LiveAgent) (file : Option StatusFile) (fault : Option ReadFault)

/-- A poll of the journal: the bytes there were, whether reading them succeeded, and the records
handed over. -/
structure Polled where
  journal : List UInt8
  read : Bool
  records : List MultAgentStatusRecord

namespace Watched

def journal (watched : Watched) : List UInt8 := watched.file.elim [] StatusFile.bytes

def step (host : StatusHost) (live : LiveAgent) (watched : Watched) :
    JournalStep → Watched × List Polled
  | .create file => ({ watched with file }, [])
  | .append fragment => ({ watched with file := watched.file.map (·.append fragment) }, [])
  | .poll grown fault =>
      let (records, source) :=
        watched.source.pollRead (host.readGrown watched.file grown fault) live
      let after : Watched := ⟨watched.file.map (·.append grown), source⟩
      (after, [⟨after.journal, fault.isNone, records⟩])
  | .pollOther other file fault =>
      ({ watched with source := (watched.source.poll host file fault other).2 }, [])

end Watched

/-- Within its byte limit, with every complete line well formed and within the line limit. -/
structure StatusHost.Sound (host : StatusHost) (bytes : List UInt8) : Prop where
  within : bytes.length ≤ maxStatusFileBytes
  formed : ∀ line ∈ lines newline bytes,
    line ≠ [] ∧ line.length ≤ maxStatusRecordBytes ∧ (host.decode line).isSome

/-- A writer that keeps to the form of a journal and never replaces it. -/
def StatusHost.Keeps (host : StatusHost) (live : LiveAgent) (watched : Watched) :
    JournalStep → Prop
  | .create file => watched.file = none ∧ host.accepts file ∧ host.Sound file.bytes
  | .append fragment => host.Sound (watched.journal ++ fragment)
  | .poll grown _ => host.Sound (watched.journal ++ grown)
  | .pollOther other _ _ => other.chat ≠ live.chat

instance (host : StatusHost) (bytes : List UInt8) : Decidable (host.Sound bytes) :=
  decidable_of_iff (bytes.length ≤ maxStatusFileBytes ∧ ∀ line ∈ lines newline bytes,
      line ≠ [] ∧ line.length ≤ maxStatusRecordBytes ∧ (host.decode line).isSome)
    ⟨fun both => ⟨both.1, both.2⟩, fun sound => ⟨sound.within, sound.formed⟩⟩

instance (host : StatusHost) (live : LiveAgent) (watched : Watched) :
    ∀ action, Decidable (host.Keeps live watched action)
  | .create _ => instDecidableAnd
  | .append fragment => inferInstanceAs (Decidable (host.Sound (watched.journal ++ fragment)))
  | .poll grown _ => inferInstanceAs (Decidable (host.Sound (watched.journal ++ grown)))
  | .pollOther other _ _ => inferInstanceAs (Decidable (other.chat ≠ live.chat))

/-- A client that has read none of the journals, and one of them as it is then. -/
def journalMachine (host : StatusHost) (live : LiveAgent) :
    Machine Watched JournalStep Polled where
  start watched := (∀ chat, watched.source chat = none) ∧
    ∀ file, watched.file = some file → host.accepts file ∧ host.Sound file.bytes
  step watched action := some (watched.step host live action)

def delivered (past : List Polled) : List MultAgentStatusRecord := past.flatMap Polled.records

/-- The polls up to each that could read hand over the complete lines there were, and the cursor
stands at the end of one. -/
structure ReadWhole (host : StatusHost) (live : LiveAgent) (watched : Watched)
    (past : List Polled) : Prop where
  polls : ∀ before polled after, past = before ++ polled :: after → polled.read = true →
    (delivered (before ++ [polled])).map some = (lines newline polled.journal).map host.decode
  failed : ∀ polled ∈ past, polled.read = false → polled.records = []
  earlier : ∀ polled ∈ past, polled.journal <+: watched.journal
  stands : ∃ seen, seen <+: watched.journal ∧
    (watched.source.journalFor live).cursor.offset = (joined newline (lines newline seen)).length ∧
    (delivered past).map some = (lines newline seen).map host.decode

variable {host : StatusHost} {live : LiveAgent}

theorem parseLines_formed {encoded : List (List UInt8)} (offset : Nat)
    (formed : ∀ line ∈ encoded,
      line ≠ [] ∧ line.length ≤ maxStatusRecordBytes ∧ (host.decode line).isSome) :
    ∃ records, host.parseLines offset encoded = some records := by
  induction encoded generalizing offset with
  | nil => exact ⟨[], rfl⟩
  | cons line rest ih =>
    obtain ⟨here, later⟩ := List.forall_mem_cons.mp formed
    obtain ⟨some, short, decodes⟩ := here
    obtain ⟨record, decoded⟩ := Option.isSome_iff_exists.mp decodes
    obtain ⟨records, parsed⟩ := ih (offset + (line.length + 1)) later
    refine ⟨(record, offset + (line.length + 1)) :: records, ?_⟩
    rw [StatusHost.parseLines, if_neg (by simp [some, short]), decoded, parsed]
    rfl

/-- A cursor that stands in a journal is followed to the same place after the journal has grown. -/
theorem Stands.follow_append {cursor : AgentStatusCursor} {consumed : List (List UInt8)}
    {file : StatusFile} (stands : Stands cursor consumed (some file)) (grown : List UInt8) :
    cursor.follow (file.append grown) = cursor.follow file := by
  obtain ⟨followed, start, -, -⟩ := stands.follow
  have within : cursor.offset ≤ file.bytes.length := by
    rw [stands.offset]
    exact start.length_le
  have longer : (file.append grown).bytes.length = file.bytes.length + grown.length :=
    List.length_append
  unfold AgentStatusCursor.follow
  rw [longer]
  by_cases moved : cursor.device ≠ file.device ∨ cursor.inode ≠ file.inode
  · rw [if_pos (moved.elim .inl fun other => .inr (.inl other)),
      if_pos (moved.elim .inl fun other => .inr (.inl other))]
    rfl
  · rw [not_or] at moved
    rw [if_neg, if_neg]
    · rintro (other | other | past)
      · exact moved.1 other
      · exact moved.2 other
      · omega
    · rintro (other | other | past)
      · exact moved.1 other
      · exact moved.2 other
      · omega

/-- Whether the journal grows before its metadata is looked at or behind that is all the same. -/
theorem Stands.readGrown_eq {cursor : AgentStatusCursor} {consumed : List (List UInt8)}
    {file : StatusFile} {grown : List UInt8} (stands : Stands cursor consumed (some file))
    (accepted : host.accepts file) (grows : host.accepts (file.append grown))
    (fault : Option ReadFault) :
    host.readGrown (some file) grown fault cursor =
      host.readMultAgentStatusRecords (some (file.append grown)) fault cursor := by
  simp only [StatusHost.readGrown, StatusHost.readMultAgentStatusRecords, accepted, grows,
    stands.follow_append grown]

theorem Stands.read_sound {cursor : AgentStatusCursor} {consumed : List (List UInt8)}
    {file : StatusFile} (stands : Stands cursor consumed (some file))
    (accepted : host.accepts file) (sound : host.Sound file.bytes) :
    ∃ records after, host.readMultAgentStatusRecords (some file) none cursor =
        (some records, after) ∧
      Stands { after with offset := records.getLast?.elim after.offset Prod.snd }
        (lines newline file.bytes) (some file) ∧
      (lines newline file.bytes).map host.decode =
        consumed.map host.decode ++ records.map fun record => some record.1 := by
  obtain ⟨followed, ⟨rest, whole⟩, device, inode⟩ := stands.follow
  have split : lines newline file.bytes = consumed ++ lines newline rest := by
    rw [← whole, lines_append rest followed.clean]
  have behind : file.bytes.drop (cursor.follow file).offset = rest := by
    rw [followed.offset, ← whole, List.drop_left]
  have few : rest.length ≤ maxStatusFileBytes - (cursor.follow file).offset := by
    have within := sound.within
    rw [← whole, List.length_append, ← followed.offset] at within
    omega
  obtain ⟨records, parsed⟩ := @parseLines_formed host (lines newline rest)
    (cursor.follow file).offset fun line listed =>
      sound.formed line (split ▸ List.mem_append_right consumed listed)
  obtain ⟨each, last⟩ := parseLines_spec parsed
  refine ⟨records, cursor.follow file, ?_, ⟨?_, ?_, ?_⟩, ?_⟩
  · simp only [StatusHost.readMultAgentStatusRecords, accepted, behind, parsed, reduceCtorEq,
      ↓reduceIte, List.take_of_length_le (Nat.le_succ_of_le few), Nat.not_lt.mpr few]
  · exact fun line listed => separator_notMem_lines listed
  · rw [split, joined_append, List.length_append, ← followed.offset]
    exact last
  · exact fun _ => ⟨file, rfl, device.symm, inode.symm, joined_lines_begins newline file.bytes⟩
  · rw [split, List.map_append, each]

/-! ## Runs -/

/-- The journal is well formed, and the source stands behind its complete lines as they were at the
last poll that could read. -/
structure Caught (host : StatusHost) (live : LiveAgent) (watched : Watched) (past : List Polled) :
    Prop where
  opened : ∀ file, watched.file = some file → host.accepts file ∧ host.Sound file.bytes
  polls : ∀ before polled after, past = before ++ polled :: after → polled.read = true →
    (delivered (before ++ [polled])).map some = (lines newline polled.journal).map host.decode
  failed : ∀ polled ∈ past, polled.read = false → polled.records = []
  earlier : ∀ polled ∈ past, polled.journal <+: watched.journal
  seen : ∃ seen, seen <+: watched.journal ∧
    StandsFor live watched.source (lines newline seen) watched.file ∧
    (delivered past).map some = (lines newline seen).map host.decode

variable {watched : Watched} {past : List Polled}

theorem accepts_append {file : StatusFile} {fragment : List UInt8} (accepted : host.accepts file)
    (sound : host.Sound (file.bytes ++ fragment)) : host.accepts (file.append fragment) := by
  simp only [StatusHost.accepts, Bool.and_eq_true, decide_eq_true_eq] at accepted ⊢
  exact ⟨accepted.1, sound.within⟩

theorem delivered_snoc (past : List Polled) (polled : Polled) :
    delivered (past ++ [polled]) = delivered past ++ polled.records := by
  simp [delivered]

theorem Caught.append (caught : Caught host live watched past) {fragment : List UInt8}
    (sound : host.Sound (watched.journal ++ fragment)) :
    Caught host live { watched with file := watched.file.map (·.append fragment) } past := by
  cases absent : watched.file with
  | none =>
    have same : ({ watched with file := none } : Watched) = watched := by rw [← absent]
    rw [Option.map_none, same]
    exact caught
  | some file =>
    have journal : watched.journal = file.bytes := by rw [Watched.journal, absent]; rfl
    rw [journal] at sound
    have grows : watched.journal <+: file.bytes ++ fragment := by
      rw [journal]
      exact List.prefix_append _ _
    obtain ⟨seen, start, stands, each⟩ := caught.seen
    refine ⟨?_, caught.polls, caught.failed, fun polled member => ?_, seen, start.trans grows, ?_,
      each⟩
    · rintro longer ⟨⟩
      exact ⟨accepts_append (caught.opened file absent).1 sound, sound⟩
    · exact (caught.earlier polled member).trans grows
    · refine Stands.write stands fun before same => ?_
      rw [absent] at same
      cases same
      exact ⟨_, rfl, rfl, rfl, List.prefix_append _ _⟩

theorem poll_nothing {source after : JournalStatusSource} {file : Option StatusFile}
    {fault : Option ReadFault} {records : List MultAgentStatusRecord}
    (nothing : file = none ∨ fault.isSome)
    (polled : source.poll host file fault live = (records, after)) : records = [] := by
  have read : (host.readMultAgentStatusRecords file fault (source.journalFor live).cursor).1.getD [] =
      [] := by
    unfold StatusHost.readMultAgentStatusRecords
    cases file with
    | none => split <;> rfl
    | some file =>
      cases fault with
      | none => simp at nothing
      | some fault =>
        cases fault with
        | opening => rfl
        | reading =>
          rw [if_neg (by simp)]
          dsimp only
          split <;> rfl
  unfold JournalStatusSource.poll at polled
  cases done : host.readMultAgentStatusRecords file fault (source.journalFor live).cursor with
  | mk result cursor =>
    rw [done] at read
    cases result with
    | none =>
      simp only [done] at polled
      exact (congrArg Prod.fst polled).symm
    | some found =>
      simp only [done] at polled
      cases polled
      rw [show found = [] from read]
      rfl

theorem Caught.told (caught : Caught host live watched past) {fault : Option ReadFault}
    {records : List MultAgentStatusRecord} {source : JournalStatusSource}
    (polled : watched.source.poll host watched.file fault live = (records, source)) :
    ∃ seen, seen <+: watched.journal ∧ StandsFor live source (lines newline seen) watched.file ∧
      (delivered past ++ records).map some = (lines newline seen).map host.decode ∧
      (fault.isNone = true → seen = watched.journal) := by
  obtain ⟨seen, start, stands, each⟩ := caught.seen
  by_cases nothing : watched.file = none ∨ fault.isSome
  · have none := poll_nothing nothing polled
    subst none
    obtain ⟨more, empty, standing⟩ := stands.poll polled
    rw [List.map_eq_nil_iff.mp empty, List.append_nil] at standing
    refine ⟨seen, start, standing, by rw [List.append_nil, each], fun unfailing => ?_⟩
    have absent : watched.file = none := nothing.resolve_right (by cases fault <;> simp_all)
    have empty : watched.journal = [] := by rw [Watched.journal, absent]; rfl
    rw [empty] at start ⊢
    exact List.prefix_nil.mp start
  · rw [not_or] at nothing
    obtain ⟨file, opened⟩ := Option.ne_none_iff_exists'.mp nothing.1
    have steady : fault = none := by cases fault <;> simp_all
    subst steady
    have journal : watched.journal = file.bytes := by rw [Watched.journal, opened]; rfl
    obtain ⟨accepted, sound⟩ := caught.opened file opened
    rw [StandsFor, opened] at stands
    obtain ⟨found, after, read, standing, all⟩ := stands.read_sound accepted sound
    rw [JournalStatusSource.poll, opened, read] at polled
    cases polled
    refine ⟨watched.journal, List.prefix_refl _, ?_, ?_, fun _ => rfl⟩
    · rw [StandsFor, journalFor_update, journal, opened]
      exact standing
    · rw [journal, all, List.map_append, each, List.map_map]
      rfl

theorem Caught.poll (caught : Caught host live watched past) {fault : Option ReadFault}
    {records : List MultAgentStatusRecord} {source : JournalStatusSource}
    (polled : watched.source.poll host watched.file fault live = (records, source)) :
    Caught host live { watched with source }
      (past ++ [⟨watched.journal, fault.isNone, records⟩]) := by
  obtain ⟨seen, start, stands, each, all⟩ := caught.told polled
  refine ⟨caught.opened, ?_, ?_, ?_, seen, start, stands, by rw [delivered_snoc, each]⟩
  · intro before other after split read
    rcases snoc_split split with ⟨rfl, rfl, -⟩ | ⟨between, same, -⟩
    · rw [delivered_snoc, ← all read]
      exact each
    · exact caught.polls before other between same read
  · intro other member unread
    rcases List.mem_append.mp member with earlier | here
    · exact caught.failed other earlier unread
    · rw [List.mem_singleton.mp here] at unread ⊢
      refine poll_nothing (.inr ?_) polled
      cases fault <;> simp_all
  · intro other member
    rcases List.mem_append.mp member with earlier | here
    · exact caught.earlier other earlier
    · rw [List.mem_singleton.mp here]
      exact List.prefix_refl _

/-- What is appended during a poll might as well have been appended before it. -/
theorem Caught.pollRead_eq (caught : Caught host live watched past) {grown : List UInt8}
    (sound : host.Sound (watched.journal ++ grown)) (fault : Option ReadFault) :
    watched.source.pollRead (host.readGrown watched.file grown fault) live =
      watched.source.poll host (watched.file.map (·.append grown)) fault live := by
  have read : host.readGrown watched.file grown fault (watched.source.journalFor live).cursor =
      host.readMultAgentStatusRecords (watched.file.map (·.append grown)) fault
        (watched.source.journalFor live).cursor := by
    cases opened : watched.file with
    | none => rfl
    | some file =>
      have journal : watched.journal = file.bytes := by rw [Watched.journal, opened]; rfl
      rw [journal] at sound
      obtain ⟨seen, -, stands, -⟩ := caught.seen
      rw [StandsFor, opened] at stands
      have accepted := (caught.opened file opened).1
      exact stands.readGrown_eq accepted (accepts_append accepted sound) fault
  rw [← JournalStatusSource.pollRead_eq]
  unfold JournalStatusSource.pollRead
  dsimp only
  rw [read]

theorem Caught.create (caught : Caught host live watched past) {file : StatusFile}
    (absent : watched.file = none) (accepted : host.accepts file) (sound : host.Sound file.bytes) :
    Caught host live { watched with file := some file } past := by
  have empty : watched.journal = [] := by rw [Watched.journal, absent]; rfl
  obtain ⟨seen, start, stands, each⟩ := caught.seen
  rw [empty] at start
  cases List.prefix_nil.mp start
  refine ⟨?_, caught.polls, caught.failed, fun polled member => ?_, [], List.nil_prefix,
    ⟨stands.clean, stands.offset, fun some => absurd rfl some⟩, each⟩
  · rintro other ⟨⟩
    exact ⟨accepted, sound⟩
  · have none := caught.earlier polled member
    rw [empty] at none
    rw [List.prefix_nil.mp none]
    exact List.nil_prefix

theorem Caught.step (caught : Caught host live watched past) {action : JournalStep}
    (keeps : host.Keeps live watched action) :
    Caught host live (watched.step host live action).1
      (past ++ (watched.step host live action).2) := by
  cases action with
  | create file =>
    simp only [Watched.step, List.append_nil]
    exact caught.create keeps.1 keeps.2.1 keeps.2.2
  | append fragment =>
    simp only [Watched.step, List.append_nil]
    exact caught.append keeps
  | poll grown fault =>
    simp only [Watched.step, caught.pollRead_eq keeps]
    exact (caught.append keeps).poll rfl
  | pollOther other file fault =>
    simp only [Watched.step, List.append_nil]
    obtain ⟨seen, start, stands, each⟩ := caught.seen
    refine ⟨caught.opened, caught.polls, caught.failed, caught.earlier, seen, start, ?_, each⟩
    cases polled : watched.source.poll host file fault other with
    | mk records source =>
      rw [StandsFor, journalFor_congr (poll_other keeps polled)]
      exact stands

/-- However a well-formed journal is appended to between polls and during them, they hand over its
complete lines, each once and in order, and nothing of a torn one. -/
theorem journal_read_whole (run : (journalMachine host live).Run (host.Keeps live) watched past) :
    ReadWhole host live watched past := by
  have caught : Caught host live watched past := by
    refine run.invariant (motive := Caught host live) ?_ ?_
    · rintro ⟨file, source⟩ ⟨unread, opened⟩
      refine ⟨opened, ?_, nofun, nofun, [], List.nil_prefix, ?_, rfl⟩
      · intro before polled after split
        exact absurd split (by simp)
      · have fresh : (source.journalFor live).cursor = .initial := by
          rw [JournalStatusSource.journalFor, show source live.chat = none from unread live.chat]
        rw [StandsFor, fresh]
        exact .initial file
    · intro state next _ events action _ caught keeps stepped
      have same : state.step host live action = (next, events) := Option.some.inj stepped
      have onward := caught.step keeps
      rwa [same] at onward
  obtain ⟨seen, start, stands, each⟩ := caught.seen
  exact ⟨caught.polls, caught.failed, caught.earlier, seen, start, stands.offset, each⟩

/-- A line that is torn at one poll and completed during the next. -/
theorem journal_read_whole_torn : ∃ watched past,
    past.map (fun polled => polled.records) = [[], [statusRecord "waiting"]] ∧
    ReadWhole sampleHost oneAgent watched past := by
  obtain ⟨watched, past, run, seen⟩ := (journalMachine sampleHost oneAgent).exists_run
    (sampleHost.Keeps oneAgent)
    (show (journalMachine sampleHost oneAgent).start ⟨none, fun _ => none⟩ from
      ⟨fun _ => rfl, nofun⟩)
    [.create ⟨8, 9, true, 1000, 1, 0o600, []⟩, .append ((statusLine "waiting").take 40),
      .poll [] none, .poll ((statusLine "waiting").drop 40 ++ [newline]) none]
    (fun _ past => past.map (fun polled => polled.records) = [[], [statusRecord "waiting"]])
    (by decide +kernel)
  exact ⟨watched, past, of_decide_eq_true seen, journal_read_whole run⟩

end Mult.Runtime
