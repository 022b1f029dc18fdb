import Mult.Storage.StoreRuns

/-! Whether a load can lose the user's file: a file that cannot be decoded is moved, and what fails
after the move is not told with the new name.
-/

set_option autoImplicit false

namespace Mult.Storage
open Foundation Protocol Project

/-! ## Calls by their place -/

/-- What the call at this place comes to, if it fails. -/
def Disk.fault (disk : Disk) (place : Nat) : Option Fault := disk.calls[place]?.join

/-- None of the calls at these places fails. -/
def Disk.Clear (disk : Disk) (first last : Nat) : Prop :=
  ∀ place, first ≤ place → place < last → disk.fault place = none

/-- So many calls have been made and so many numbers drawn, and the directory is this one. -/
structure At (start : Disk) (calls draws : Nat) (entries : Directory) (disk : Disk) : Prop where
  calls : disk.calls = start.calls.drop calls
  draws : disk.draws = start.draws.drop draws
  entries : disk.entries = entries

def SameNames (before after : Directory) : Prop :=
  ∀ name, after name = none ↔ before name = none

def Private (host : StorageHost) (entry : Entry) : Prop :=
  entry.fileType = .regular ∧ entry.owner = host.effectiveUid ∧ entry.links = 1 ∧
    (host.ignoresModes = true → entry.mode &&& 0o077 = 0)

def secured (host : StorageHost) (entries : Directory) (name : FileName) : Directory :=
  if host.ignoresModes then entries
  else Function.update entries name ((entries name).map fun entry => { entry with mode := 0o600 })

section
variable {A B : Type} {start : Disk} {calls draws : Nat} {entries : Directory}
  {host : StorageHost}

theorem At.zero (start : Disk) : At start 0 0 start.entries start := ⟨rfl, rfl, rfl⟩

theorem At.head {disk : Disk} (reached : At start calls draws entries disk) :
    disk.calls.head?.join = start.fault calls := by
  rw [reached.calls, List.head?_drop]
  rfl

theorem Disk.Clear.split {first middle last : Nat} (before : start.Clear first middle)
    (after : start.Clear middle last) : start.Clear first last := by
  intro place above below
  by_cases early : place < middle
  · exact before place above early
  · exact after place (by omega) below

theorem Disk.Clear.within {first last begins ends : Nat} (clear : start.Clear first last)
    (later : first ≤ begins) (earlier : ends ≤ last) : start.Clear begins ends :=
  fun place above below => clear place (by omega) (by omega)

theorem Disk.Clear.one (clear : start.fault calls = none) : start.Clear calls (calls + 1) := by
  intro place above below
  rw [show place = calls by omega]
  exact clear

theorem SameNames.refl (entries : Directory) : SameNames entries entries := fun _ => .rfl

theorem secured_sameNames (host : StorageHost) (entries : Directory) (name : FileName) :
    SameNames entries (secured host entries name) := by
  intro other
  unfold secured
  split
  · rfl
  · by_cases same : other = name
    · rw [same, Function.update_self, Option.map_eq_none_iff]
    · rw [Function.update_of_ne same]

theorem secured_of_ne {name other : FileName} (apart : other ≠ name) :
    secured host entries name other = entries other := by
  unfold secured
  split
  · rfl
  · rw [Function.update_of_ne apart]

theorem Private.secured {name : FileName} {entry : Entry} (accepted : Private host entry)
    (found : entries name = some entry) :
    ∃ after, secured host entries name name = some after ∧ Private host after ∧
      after.mode &&& 0o077 = 0 := by
  obtain ⟨regular, owner, links, closed⟩ := accepted
  unfold Storage.secured
  split
  · next ignores => exact ⟨entry, found, ⟨regular, owner, links, closed⟩, closed ignores⟩
  · refine ⟨{ entry with mode := 0o600 }, ?_, ⟨regular, owner, links, fun _ => ?_⟩, ?_⟩
    · rw [Function.update_self, found]
      rfl
    · exact (rfl : 0o600 &&& 0o077 = 0)
    · exact (rfl : 0o600 &&& 0o077 = 0)

theorem At.ends_call {call : Syscall} {effect : Directory → Except IoError (A × Directory)}
    {after : Except IoError A → Disk → Prop}
    (fails : ∀ fault, start.fault calls = some fault → ∀ disk, disk.entries = entries →
      after (.error fault.error) disk)
    (refused : ∀ error, effect entries = .error error → start.fault calls = none → ∀ disk,
      At start (calls + 1) draws entries disk → after (.error error) disk)
    (done : ∀ value next, effect entries = .ok (value, next) → start.fault calls = none → ∀ disk,
      At start (calls + 1) draws next disk → after (.ok value) disk) :
    Program.Ends (At start calls draws entries) (syscall call effect) after := by
  intro disk reached
  have dropped : disk.calls.tail = start.calls.drop (calls + 1) := by
    rw [reached.calls, List.tail_drop]
  unfold syscall
  dsimp only
  rw [reached.head]
  cases due : start.fault calls with
  | some fault => exact fails fault due _ reached.entries
  | none =>
    rw [reached.entries]
    dsimp only
    cases came : effect entries with
    | error error => exact refused error came due _ ⟨dropped, reached.draws, rfl⟩
    | ok value => exact done value.1 value.2 came due _ ⟨dropped, reached.draws, rfl⟩

/-! ## The parts of a load -/

theorem At.ends_openFile (name : FileName) :
    Program.Ends (At start calls draws entries) (SecureDirectory.openFile name)
      fun result disk => match result with
        | .ok () => At start (calls + 1) draws entries disk ∧ start.fault calls = none ∧
            ∃ entry, entries name = some entry ∧ entry.fileType ≠ .symlink
        | .error error => disk.entries = entries ∧
            ((∃ fault, start.fault calls = some fault ∧ error = fault.error) ∨
              At start (calls + 1) draws entries disk ∧ start.fault calls = none ∧
              (entries name = none ∧ error = noSuchFile ∨
                error = symbolicLink ∧
                ∃ entry, entries name = some entry ∧ entry.fileType = .symlink)) := by
  apply At.ends_call
  · exact fun fault due disk same => ⟨same, .inl ⟨fault, due, rfl⟩⟩
  · intro error came clear disk reached
    refine ⟨reached.entries, .inr ⟨reached, clear, ?_⟩⟩
    split at came
    · next missing =>
      cases came
      exact .inl ⟨missing, rfl⟩
    · next entry found =>
      split at came
      · next link =>
        cases came
        exact .inr ⟨rfl, entry, found, link⟩
      · cases came
  · intro value next came clear disk reached
    split at came
    · cases came
    · next entry found =>
      split at came
      · cases came
      · next link =>
        cases came
        exact ⟨reached, clear, entry, found, link⟩

theorem At.ends_metadata (name : FileName) :
    Program.Ends (At start calls draws entries) (metadata name) fun result disk =>
      match result with
        | .ok entry => At start (calls + 1) draws entries disk ∧ start.fault calls = none ∧
            entries name = some entry
        | .error _ => disk.entries = entries ∧ (start.fault calls = none → entries name = none) := by
  apply At.ends_call
  · exact fun fault due disk same => ⟨same, fun clear => nomatch due.symm.trans clear⟩
  · intro error came clear disk reached
    refine ⟨reached.entries, fun _ => ?_⟩
    split at came
    · next missing => exact missing
    · cases came
  · intro value next came clear disk reached
    split at came
    · cases came
    · next entry found =>
      cases came
      exact ⟨reached, clear, found⟩

theorem At.ends_setFileMode (name : FileName) :
    Program.Ends (At start calls draws entries) (setFileMode host name 0o600)
      fun result disk => match result with
        | .ok () => At start (calls + 1) draws (secured host entries name) disk ∧
            start.fault calls = none
        | .error _ => disk.entries = entries ∧ start.fault calls ≠ none := by
  apply At.ends_call
  · exact fun fault due disk same => ⟨same, fun clear => nomatch due.symm.trans clear⟩
  · exact fun error came => nomatch came
  · intro value next came clear disk reached
    cases came
    exact ⟨reached, clear⟩

theorem At.ends_validatePrivateRegularFile (name : FileName) (description : String) :
    Program.Ends (At start calls draws entries) (validatePrivateRegularFile host name description)
      fun result disk => match result with
        | .ok () => At start (calls + 1) draws entries disk ∧ start.fault calls = none ∧
            ∃ entry, entries name = some entry ∧ entry.fileType = .regular ∧
              entry.owner = host.effectiveUid ∧ entry.links = 1
        | .error _ => disk.entries = entries ∧ (start.fault calls = none → ∀ entry,
            entries name = some entry → ¬Private host entry) := by
  refine (At.ends_metadata name).bind (fun entry => ?_) fun error disk held =>
    ⟨held.1, fun clear entry found => nomatch found.symm.trans (held.2 clear)⟩
  have rejected : ¬Private host entry → ∀ error : IoError,
      Program.Ends (fun disk => At start (calls + 1) draws entries disk ∧
          start.fault calls = none ∧ entries name = some entry)
        (Program.fail error : DiskProgram Unit) fun result disk => match result with
          | .ok () => At start (calls + 1) draws entries disk ∧ start.fault calls = none ∧
              ∃ entry, entries name = some entry ∧ entry.fileType = .regular ∧
                entry.owner = host.effectiveUid ∧ entry.links = 1
          | .error _ => disk.entries = entries ∧ (start.fault calls = none → ∀ entry,
              entries name = some entry → ¬Private host entry) := by
    refine fun refusal error => .fail fun disk held => ⟨held.1.entries, fun _ other found => ?_⟩
    cases found.symm.trans held.2.2
    exact refusal
  dsimp only
  split
  · next irregular => exact rejected (fun accepted => irregular accepted.1) _
  · next regular =>
    split
    · next foreign => exact rejected (fun accepted => foreign accepted.2.1) _
    · next own =>
      split
      · next linked => exact rejected (fun accepted => linked accepted.2.2.1) _
      · next single =>
        refine .pure fun disk held => ⟨held.1, held.2.1, entry, held.2.2, ?_⟩
        exact ⟨not_not.mp regular, not_not.mp own, not_not.mp single⟩

/-- Of a file that is accepted only a failing call keeps the mode from being set. -/
theorem At.ends_securePrivateRegularFile (name : FileName) (description : String) :
    Program.Ends (At start calls draws entries) (securePrivateRegularFile host name description)
      fun result disk => match result with
        | .ok () => At start (calls + 3) draws (secured host entries name) disk ∧
            start.Clear calls (calls + 3) ∧
            ∃ entry, entries name = some entry ∧ Private host entry
        | .error _ => SameNames entries disk.entries ∧
            (start.Clear calls (calls + 3) → ∀ entry, entries name = some entry →
              ¬Private host entry) := by
  refine (At.ends_validatePrivateRegularFile name description).bind (fun _ => ?_) ?_
  swap
  · rintro error disk ⟨same, refused⟩
    exact ⟨same ▸ .refl entries, fun clear => refused (clear calls (by omega) (by omega))⟩
  refine Program.Ends.knowing fun ⟨first, entry, found, regular, owner, links⟩ => ?_
  refine (At.ends_setFileMode name).bind (fun _ => ?_) ?_
  swap
  · rintro error disk ⟨same, failed⟩
    exact ⟨same ▸ .refl entries, fun clear => absurd (clear _ (by omega) (by omega)) failed⟩
  refine Program.Ends.knowing fun second => ?_
  refine (At.ends_metadata name).bind (fun after => ?_) ?_
  swap
  · rintro error disk ⟨same, failed⟩
    refine ⟨same ▸ secured_sameNames host entries name, fun clear => ?_⟩
    have missing := failed (clear _ (by omega) (by omega))
    exact nomatch found.symm.trans ((secured_sameNames host entries name name).mp missing)
  refine Program.Ends.given (fun disk =>
    At start (calls + 3) draws (secured host entries name) disk ∧ start.fault (calls + 2) = none ∧
      secured host entries name name = some after) (fun _ held => held) ?_
  split
  · next shared =>
    refine .fail fun disk held => ⟨held.1.entries ▸ secured_sameNames host entries name, ?_⟩
    intro clear other there accepted
    obtain ⟨left, kept, -, closed⟩ := accepted.secured there
    cases kept.symm.trans held.2.2
    exact shared closed
  · next closed =>
    refine .pure fun disk held => ⟨held.1, ?_, entry, found, regular, owner, links, fun ignores => ?_⟩
    · exact (Disk.Clear.one first).split ((Disk.Clear.one second).split (.one held.2.1))
    · have kept := held.2.2
      rw [secured, if_pos ignores, found] at kept
      cases kept
      exact not_not.mp closed

def Readable (host : StorageHost) (entry : Entry) : Prop :=
  Private host entry ∧ entry.bytes.length ≤ maxStateFileBytes

theorem At.ends_readToEnd (name : FileName) (limit : Nat) :
    Program.Ends (At start calls draws entries) (readToEnd name limit) fun result disk =>
      match result with
        | .ok bytes => At start (calls + 1) draws entries disk ∧ start.fault calls = none ∧
            ∃ entry, entries name = some entry ∧ bytes = entry.bytes.take limit
        | .error _ => disk.entries = entries ∧ (start.fault calls = none → entries name = none) := by
  apply At.ends_call
  · exact fun fault due disk same => ⟨same, fun clear => nomatch due.symm.trans clear⟩
  · intro error came clear disk reached
    refine ⟨reached.entries, fun _ => ?_⟩
    split at came
    · next missing => exact missing
    · cases came
  · intro value next came clear disk reached
    split at came
    · cases came
    · next entry found =>
      cases came
      exact ⟨reached, clear, entry, found, rfl⟩

theorem secured_bytes (entries : Directory) (name other : FileName) :
    (secured host entries name other).map Entry.bytes = (entries other).map Entry.bytes := by
  unfold secured
  split
  · rfl
  · exact setMode_bytes entries name 0o600 other

/-- The state file is read unless it is not there, is not accepted, or a call fails. -/
theorem At.ends_readStateBytes (paths : StatePaths) :
    Program.Ends (At start calls draws entries) (StateStore.readStateBytes host paths)
      fun result disk => match result with
        | .ok (some bytes) =>
            At start (calls + 5) draws (secured host entries paths.stateName) disk ∧
              start.Clear calls (calls + 5) ∧
              ∃ entry, entries paths.stateName = some entry ∧ Readable host entry ∧
                bytes = entry.bytes
        | _ => SameNames entries disk.entries ∧ (start.Clear calls (calls + 5) → ∀ entry,
            entries paths.stateName = some entry → ¬Readable host entry) := by
  refine (At.ends_openFile paths.stateName).attempt fun opened => ?_
  cases opened with
  | error error =>
    have unread : ∀ disk : Disk, (disk.entries = entries ∧
        ((∃ fault, start.fault calls = some fault ∧ error = fault.error) ∨
          At start (calls + 1) draws entries disk ∧ start.fault calls = none ∧
          (entries paths.stateName = none ∧ error = noSuchFile ∨ error = symbolicLink ∧
            ∃ entry, entries paths.stateName = some entry ∧ entry.fileType = .symlink))) →
        SameNames entries disk.entries ∧ (start.Clear calls (calls + 5) → ∀ entry,
          entries paths.stateName = some entry → ¬Readable host entry) := by
      rintro disk ⟨same, failed⟩
      refine ⟨same ▸ .refl entries, fun clear entry found accepted => ?_⟩
      rcases failed with ⟨fault, due, -⟩ | ⟨-, -, ⟨missing, -⟩ | ⟨-, other, there, link⟩⟩
      · exact nomatch due.symm.trans (clear calls (by omega) (by omega))
      · exact nomatch found.symm.trans missing
      · cases found.symm.trans there
        exact nomatch accepted.1.1.symm.trans link
    dsimp only
    split
    · exact .pure unread
    · exact .fail unread
  | ok done =>
    refine Program.Ends.given (fun disk => At start (calls + 1) draws entries disk ∧
      start.fault calls = none) (fun _ held => ⟨held.1, held.2.1⟩) ?_
    refine Program.Ends.knowing fun first => ?_
    refine (At.ends_securePrivateRegularFile paths.stateName _).bind (fun _ => ?_) ?_
    swap
    · rintro error disk ⟨same, failed⟩
      exact ⟨same, fun clear entry found accepted =>
        failed (clear.within (by omega) (by omega)) entry found accepted.1⟩
    refine Program.Ends.knowing fun ⟨middle, entry, found, accepted⟩ => ?_
    obtain ⟨after, there, -⟩ := accepted.secured found
    refine (At.ends_readToEnd paths.stateName _).bind (fun bytes => ?_) ?_
    swap
    · rintro error disk ⟨same, failed⟩
      refine ⟨same ▸ secured_sameNames host entries paths.stateName, fun clear => ?_⟩
      exact nomatch there.symm.trans (failed (clear _ (by omega) (by omega)))
    dsimp only
    refine Program.Ends.knowing fun ⟨last, other, kept, taken⟩ => ?_
    have same : other.bytes = entry.bytes := by
      have equal := @secured_bytes host entries paths.stateName paths.stateName
      rw [kept, found] at equal
      exact Option.some.inj equal
    rw [same] at taken
    subst taken
    split
    · next long =>
      refine .fail fun disk reached => ⟨reached.entries ▸
        secured_sameNames host entries paths.stateName, fun _ another equal readable => ?_⟩
      cases found.symm.trans equal
      have short := readable.2
      rw [List.length_take] at long
      omega
    · next fits =>
      have short : entry.bytes.length ≤ maxStateFileBytes := by
        rw [List.length_take] at fits
        omega
      refine .pure fun disk reached => ⟨reached, ?_, entry, found, ⟨accepted, short⟩, ?_⟩
      · exact (Disk.Clear.one first).split (middle.split (.one last))
      · exact List.take_of_length_le (by omega)

/-! ## Moving the file -/

/-- A name that a look without following links finds. -/
def Taken (entries : Directory) (name : FileName) : Prop :=
  ∃ entry, entries name = some entry ∧ entry.fileType ≠ .symlink

theorem At.ends_existsNoFollow (name : FileName) :
    Program.Ends (At start calls draws entries) (SecureDirectory.existsNoFollow name)
      fun result disk => match result with
        | .ok taken => At start (calls + 1) draws entries disk ∧ start.fault calls = none ∧
            if taken then Taken entries name else entries name = none
        | .error _ => disk.entries = entries ∧
            (start.fault calls = none → entries name ≠ none ∧ ¬Taken entries name) := by
  refine (At.ends_openFile name).attempt fun opened => ?_
  cases opened with
  | ok done => exact .pure fun disk held => held
  | error error =>
    dsimp only
    split
    · next missing =>
      refine .pure ?_
      rintro disk ⟨same, ⟨fault, due, rfl⟩ | ⟨reached, clear, ⟨free, -⟩ | ⟨rfl, -⟩⟩⟩
      · exact absurd missing fault.kind_ne
      · exact ⟨reached, clear, free⟩
      · exact nomatch missing
    · next other =>
      refine .fail ?_
      rintro disk ⟨same, ⟨fault, due, rfl⟩ | ⟨reached, clear, ⟨-, rfl⟩ | ⟨-, entry, found, link⟩⟩⟩
      · exact ⟨same, fun clear => nomatch due.symm.trans clear⟩
      · exact absurd rfl other
      · refine ⟨same, fun _ => ⟨by rw [found]; exact nofun, ?_⟩⟩
        rintro ⟨another, there, plain⟩
        cases found.symm.trans there
        exact plain link

theorem At.ends_unchanged (call : Syscall) :
    Program.Ends (At start calls draws entries) (syscall call fun entries => .ok ((), entries))
      fun result disk => match result with
        | .ok () => At start (calls + 1) draws entries disk ∧ start.fault calls = none
        | .error _ => disk.entries = entries ∧ start.fault calls ≠ none := by
  apply At.ends_call
  · exact fun fault due disk same => ⟨same, fun clear => nomatch due.symm.trans clear⟩
  · exact fun error came => nomatch came
  · intro value next came clear disk reached
    cases came
    exact ⟨reached, clear⟩

theorem At.ends_randomU64 :
    Program.Ends (At start calls draws entries) randomU64 fun result disk =>
      match result with
        | .ok value => At start (calls + 1) (draws + 1) entries disk ∧
            start.fault calls = none ∧ value = start.draws[draws]?.getD 0
        | .error _ => disk.entries = entries ∧ start.fault calls ≠ none := by
  refine (At.ends_unchanged .readRandom).bind (fun _ => Program.Ends.knowing fun clear => ?_)
    fun _ _ held => held
  intro disk reached
  refine ⟨⟨reached.calls, ?_, reached.entries⟩, clear, ?_⟩
  · change disk.draws.tail = _
    rw [reached.draws, List.tail_drop]
  · change disk.draws.head?.getD 0 = _
    rw [reached.draws, List.head?_drop]

theorem At.ends_rename (source target : FileName) :
    Program.Ends (At start calls draws entries) (SecureDirectory.rename source target)
      fun result disk => match result with
        | .ok () => start.fault calls = none ∧ ∃ entry, entries source = some entry ∧
            At start (calls + 1) draws
              (Function.update (Function.update entries source none) target (some entry)) disk
        | .error _ => disk.entries = entries ∧
            (start.fault calls = none → entries source = none) := by
  apply At.ends_call
  · exact fun fault due disk same => ⟨same, fun clear => nomatch due.symm.trans clear⟩
  · intro error came clear disk reached
    refine ⟨reached.entries, fun _ => ?_⟩
    split at came
    · next missing => exact missing
    · cases came
  · intro value next came clear disk reached
    split at came
    · cases came
    · next entry found =>
      cases came
      exact ⟨clear, entry, found, reached⟩

theorem At.ends_secureBackup {backup : FileName} {entry : Entry}
    (found : entries backup = some entry) (accepted : Private host entry) :
    Program.Ends (At start calls draws entries) (secureBackup host backup) fun result disk =>
      SameNames entries disk.entries ∧ ((∃ name, result = .ok name) ↔
        start.Clear calls (calls + 5)) := by
  have plain : entry.fileType ≠ .symlink := by
    rw [accepted.1]
    exact nofun
  refine (At.ends_openFile backup).bind (fun _ => ?_) ?_
  swap
  · rintro error disk ⟨same, failed⟩
    refine ⟨same ▸ .refl entries, nofun, fun clear => ?_⟩
    rcases failed with ⟨fault, due, -⟩ | ⟨-, -, ⟨missing, -⟩ | ⟨-, other, there, link⟩⟩
    · exact nomatch due.symm.trans (clear calls (by omega) (by omega))
    · exact nomatch found.symm.trans missing
    · cases found.symm.trans there
      exact absurd link plain
  refine Program.Ends.knowing fun ⟨first, _⟩ => ?_
  refine (At.ends_securePrivateRegularFile backup _).bind (fun _ => ?_) ?_
  swap
  · rintro error disk ⟨same, failed⟩
    exact ⟨same, nofun, fun clear =>
      absurd accepted (failed (clear.within (by omega) (by omega)) entry found)⟩
  refine Program.Ends.knowing fun ⟨middle, _⟩ => ?_
  refine (At.ends_unchanged .syncDirectory).bind (fun _ => .pure ?_) ?_
  · rintro disk ⟨reached, last⟩
    refine ⟨reached.entries ▸ secured_sameNames host entries backup, fun _ => ?_,
      fun _ => ⟨backup, rfl⟩⟩
    exact (Disk.Clear.one first).split (middle.split (.one last))
  · rintro error disk ⟨same, failed⟩
    exact ⟨same ▸ secured_sameNames host entries backup, nofun, fun clear =>
      absurd (clear _ (by omega) (by omega)) failed⟩

end

/-! ## Loading -/

/-- The place of the first call of an attempt at a backup name. -/
def attemptPlace (attempt : Nat) : Nat := 7 + 2 * attempt

section
variable (paths : StatePaths) (timestamp : Nat) (start : Disk)

def attempted (attempt : Nat) : FileName :=
  backupName paths timestamp (start.draws[attempt]?.getD 0)

/-- Of the attempts from the first on, it is the last that moves the file. -/
structure Picks (entries : Directory) (first last : Nat) : Prop where
  reached : first ≤ last
  taken : ∀ attempt, first ≤ attempt → attempt < last →
    Taken entries (attempted paths timestamp start attempt)
  free : entries (attempted paths timestamp start last) = none
  clear : start.Clear (attemptPlace first) (attemptPlace last + 3)

end

section
variable {start : Disk} {entries : Directory} {host : StorageHost} {paths : StatePaths}
  {timestamp first last : Nat}

theorem Picks.next (picks : Picks paths timestamp start entries first last)
    (there : Taken entries (attempted paths timestamp start first)) :
    Picks paths timestamp start entries (first + 1) last := by
  have apart : first ≠ last := by
    rintro rfl
    obtain ⟨entry, found, -⟩ := there
    exact nomatch found.symm.trans picks.free
  have reached := picks.reached
  refine ⟨by omega, fun attempt above below => picks.taken attempt (by omega) below, picks.free, ?_⟩
  exact picks.clear.within (by simp only [attemptPlace]; omega) le_rfl

/-- Where the attempts lead, given the calls that fail and the names that are taken. -/
theorem At.ends_backupAttempts {entry : Entry} (found : entries paths.stateName = some entry)
    (accepted : Private host entry) (decodeError : String) (attempts first : Nat) :
    Program.Ends (At start (attemptPlace first) first entries)
      (backupAttempts host paths decodeError timestamp attempts) fun result disk =>
        (∀ last, last < first + attempts → ¬Picks paths timestamp start entries first last) ∧
          SameNames entries disk.entries ∧ (∀ name, result ≠ .ok name) ∨
        ∃ last, last < first + attempts ∧ Picks paths timestamp start entries first last ∧
          disk.entries paths.stateName = none ∧ ((∃ name, result = .ok name) ↔
            start.Clear (attemptPlace last + 3) (attemptPlace last + 8)) := by
  induction attempts generalizing first with
  | zero =>
    refine .fail fun disk reached => .inl ⟨fun last below picks => ?_, ?_, nofun⟩
    · have := picks.reached
      omega
    · exact reached.entries ▸ .refl entries
  | succ attempts ih =>
    -- A call that fails before the move ends the attempts.
    have blocked : ∀ place, attemptPlace first ≤ place → place < attemptPlace first + 3 →
        start.fault place ≠ none → ∀ last, ¬Picks paths timestamp start entries first last := by
      intro place above below failed last picks
      have reached := picks.reached
      exact failed (picks.clear place above (by simp only [attemptPlace] at below ⊢; omega))
    refine At.ends_randomU64.bind (fun suffix => ?_) ?_
    swap
    · rintro error disk ⟨same, failed⟩
      exact .inl ⟨fun last _ => blocked _ le_rfl (by omega) failed last, same ▸ .refl entries, nofun⟩
    refine Program.Ends.knowing fun ⟨drawn, value⟩ => ?_
    subst value
    dsimp only
    refine (At.ends_existsNoFollow (attempted paths timestamp start first)).bind (fun taken => ?_) ?_
    swap
    · rintro error disk ⟨same, failed⟩
      refine .inl ⟨fun last _ picks => ?_, same ▸ .refl entries, nofun⟩
      by_cases clear : start.fault (attemptPlace first + 1) = none
      · obtain ⟨there, link⟩ := failed clear
        rcases Nat.lt_or_eq_of_le picks.reached with later | rfl
        · exact link (picks.taken first le_rfl later)
        · exact there picks.free
      · exact blocked _ (by omega) (by omega) clear last picks
    refine Program.Ends.knowing fun ⟨looked, known⟩ => ?_
    cases taken with
    | true =>
      refine (ih (first + 1)).weaken (fun disk reached => reached) ?_
      rintro result disk (⟨never, left⟩ | ⟨last, below, picks, gone, ended⟩)
      · refine .inl ⟨fun last below picks => ?_, left⟩
        exact never last (by omega) (picks.next known)
      · refine .inr ⟨last, by omega, ⟨?_, ?_, picks.free, ?_⟩, gone, ended⟩
        · have := picks.reached
          omega
        · intro attempt above before
          rcases Nat.lt_or_eq_of_le above with later | rfl
          · exact picks.taken attempt later before
          · exact known
        · exact (Disk.Clear.one drawn).split ((Disk.Clear.one looked).split picks.clear)
    | false =>
      have apart : paths.stateName ≠ attempted paths timestamp start first :=
        fun same => backupName_ne timestamp _ same.symm
      refine (At.ends_rename paths.stateName _).attempt fun renamed => ?_
      cases renamed with
      | error failure =>
        refine .fail ?_
        rintro disk ⟨same, failed⟩
        refine .inl ⟨fun last _ => blocked (attemptPlace first + 2) (by omega) (by omega)
          (fun clear => ?_) last, same ▸ .refl entries, nofun⟩
        exact nomatch found.symm.trans (failed clear)
      | ok done =>
        refine Program.Ends.given (fun disk =>
          At start (attemptPlace first + 3) (first + 1) (Function.update
            (Function.update entries paths.stateName none) (attempted paths timestamp start first)
            (some entry)) disk ∧ start.fault (attemptPlace first + 2) = none)
          ?_ (Program.Ends.knowing fun clear => ?_)
        rotate_left
        · refine (At.ends_secureBackup (Function.update_self ..) accepted).weaken
            (fun _ reached => reached) fun result disk left => .inr ⟨first, by omega, ?_, ?_, left.2⟩
          · exact ⟨le_rfl, fun attempt above below => by omega, known,
              (Disk.Clear.one drawn).split ((Disk.Clear.one looked).split (.one clear))⟩
          · rw [left.1]
            exact (Function.update_of_ne apart ..).trans (Function.update_self ..)
        · rintro disk ⟨clear, moved, there, reached⟩
          cases found.symm.trans there
          exact ⟨reached, clear⟩

end

section
variable (format : StateFormat) (host : StorageHost) (paths : StatePaths)
  (surroundings : Surroundings) (source : IdentitySource) (start : Disk)

/-- The load moves the file, and it is this attempt that does. -/
structure MovesAt (last : Nat) : Prop where
  invalid : ∃ entry error, start.entries paths.stateName = some entry ∧ Readable host entry ∧
    decodeState format entry.bytes = .error (.invalidJson error)
  seeded : ∃ seed, tryDefaultWith source = .ok seed
  within : last < maxTempAttempts
  taken : ∀ attempt, attempt < last →
    Taken start.entries (attempted paths surroundings.timestamp start attempt)
  free : start.entries (attempted paths surroundings.timestamp start last) = none
  clear : start.Clear 0 (attemptPlace last + 3)

/-- A call after the move fails. -/
def FailsAfterMove : Prop :=
  ∃ last, MovesAt format host paths surroundings source start last ∧
    ¬start.Clear (attemptPlace last + 3) (attemptPlace last + 8)

def Mentions (text part : String) : Prop := ∃ before after, text = before ++ part ++ after

/-- The caller is told of the backup. -/
def Told (backup : FileName) : Except StateError LoadedState → Prop
  | .ok loaded => ∃ notice, loaded.notice = some notice ∧
      Mentions notice (paths.withFileName backup)
  | .error error => Mentions error.display (paths.withFileName backup)

/-- The user's file has its name, or another that the caller is told; and where the load fails it
has its own, so that the next start does not take itself for the first. -/
structure FileKept (before : Directory) (result : Except StateError LoadedState)
    (after : Directory) : Prop where
  kept : ∀ bytes, Holds paths.stateName bytes before → Holds paths.stateName bytes after ∨
    ∃ backup, Holds backup bytes after ∧ Told paths backup result
  named : ∀ error, result = .error error → before paths.stateName ≠ none →
    after paths.stateName ≠ none

end

section
variable {format : StateFormat} {host : StorageHost} {paths : StatePaths}
  {surroundings : Surroundings} {source : IdentitySource} {start : Disk}

theorem MovesAt.unique {first second : Nat}
    (one : MovesAt format host paths surroundings source start first)
    (other : MovesAt format host paths surroundings source start second) : first = second := by
  rcases Nat.lt_trichotomy first second with less | same | greater
  · obtain ⟨entry, found, -⟩ := other.taken first less
    exact nomatch found.symm.trans one.free
  · exact same
  · obtain ⟨entry, found, -⟩ := one.taken second greater
    exact nomatch found.symm.trans other.free

/-- Where the load leads, given the calls that fail and the names that are taken. -/
def Course (format : StateFormat) (host : StorageHost) (paths : StatePaths)
    (surroundings : Surroundings) (source : IdentitySource) (start : Disk)
    (result : Except StateError LoadedState) (disk : Disk) : Prop :=
  (∀ last, ¬MovesAt format host paths surroundings source start last) ∧
    SameNames start.entries disk.entries ∨
  ∃ last, MovesAt format host paths surroundings source start last ∧
    disk.entries paths.stateName = none ∧ ((∃ loaded, result = .ok loaded) ↔
      start.Clear (attemptPlace last + 3) (attemptPlace last + 8))

theorem Course.blocked {result : Except StateError LoadedState} {disk : Disk} {place : Nat}
    (failed : start.fault place ≠ none) (early : place < 7)
    (names : SameNames start.entries disk.entries) :
    Course format host paths surroundings source start result disk := by
  refine .inl ⟨fun last moves => failed (moves.clear place (by omega) ?_), names⟩
  simp only [attemptPlace]
  omega

theorem ends_backupCourse {entry : Entry} {error : String} {seed : ProjectState × IdentitySource}
    (found : start.entries paths.stateName = some entry) (readable : Readable host entry)
    (invalid : decodeState format entry.bytes = .error (.invalidJson error))
    (seeded : tryDefaultWith source = .ok seed) (clear : start.Clear 0 6) :
    Program.Ends (At start 6 0 (secured host start.entries paths.stateName))
      (backupInvalidState host paths error surroundings.timestamp) fun result disk =>
        (∀ last, ¬MovesAt format host paths surroundings source start last) ∧
          SameNames start.entries disk.entries ∧ (∀ name, result ≠ .ok name) ∨
        ∃ last, MovesAt format host paths surroundings source start last ∧
          disk.entries paths.stateName = none ∧ ((∃ name, result = .ok name) ↔
            start.Clear (attemptPlace last + 3) (attemptPlace last + 8)) := by
  have names := secured_sameNames host start.entries paths.stateName
  have elsewhere : ∀ attempt, secured host start.entries paths.stateName
      (attempted paths surroundings.timestamp start attempt) =
        start.entries (attempted paths surroundings.timestamp start attempt) :=
    fun attempt => secured_of_ne (backupName_ne _ _)
  obtain ⟨after, there, accepted, -⟩ := readable.1.secured found
  refine (At.ends_unchanged .openRandom).bind (fun _ => ?_) ?_
  swap
  · rintro failure disk ⟨same, failed⟩
    refine .inl ⟨fun last moves => failed (moves.clear 6 (by omega) ?_), same ▸ names, nofun⟩
    simp only [attemptPlace]
    omega
  refine Program.Ends.knowing fun opened => ?_
  refine (At.ends_backupAttempts there accepted error maxTempAttempts 0).weaken
    (fun _ reached => reached) ?_
  rintro result disk (⟨never, same, failed⟩ | ⟨last, below, picks, gone, ended⟩)
  · refine .inl ⟨fun last moves => never last (by have := moves.within; omega) ?_, ?_, failed⟩
    · refine ⟨by omega, fun attempt _ before => ?_, ?_, moves.clear.within (by omega) le_rfl⟩
      · obtain ⟨other, held, plain⟩ := moves.taken attempt before
        exact ⟨other, (elsewhere attempt).trans held, plain⟩
      · exact (elsewhere last).trans moves.free
    · exact fun name => (same name).trans (names name)
  · refine .inr ⟨last, ⟨?_, ⟨seed, seeded⟩, by omega, fun attempt before => ?_, ?_, ?_⟩, gone, ended⟩
    · exact ⟨entry, error, found, readable, invalid⟩
    · obtain ⟨other, held, plain⟩ := picks.taken attempt (by omega) before
      exact ⟨other, (elsewhere attempt).symm.trans held, plain⟩
    · exact (elsewhere last).symm.trans picks.free
    · exact clear.split ((Disk.Clear.one opened).split picks.clear)

/-- Entropy has been opened, or could not be. -/
def Opened (start : Disk) : Except StateError Unit → Disk → Prop
  | .ok (), disk => At start 1 0 start.entries disk ∧ start.fault 0 = none
  | .error _, disk => disk.entries = start.entries ∧ start.fault 0 ≠ none

/-- The file has been read, or there is none that could be. -/
def Fetched (host : StorageHost) (paths : StatePaths) (start : Disk) :
    Except StateError (Option Bytes) → Disk → Prop
  | .ok (some bytes), disk => At start 6 0 (secured host start.entries paths.stateName) disk ∧
      start.Clear 1 6 ∧ ∃ entry, start.entries paths.stateName = some entry ∧
        Readable host entry ∧ bytes = entry.bytes
  | _, disk => SameNames start.entries disk.entries ∧ (start.Clear 1 6 → ∀ entry,
      start.entries paths.stateName = some entry → ¬Readable host entry)

theorem ends_loadCourse :
    Program.Ends (At start 0 0 start.entries)
      (StateStore.loadOrDefault format host paths surroundings source)
      (Course format host paths surroundings source start) := by
  refine Program.Ends.bind (Q := Opened start)
    (.mapError ((At.ends_unchanged .openRandom).weaken (fun _ held => held) ?_)) (fun _ => ?_) ?_
  · rintro (_ | _) disk held
    · exact held
    · exact held
  swap
  · rintro error disk ⟨same, failed⟩
    exact .blocked failed (by omega) (same ▸ .refl start.entries)
  refine Program.Ends.knowing fun opened => ?_
  -- A file that could not be read is not moved either.
  have unread : (start.Clear 1 6 → ∀ entry, start.entries paths.stateName = some entry →
      ¬Readable host entry) →
      ∀ last, ¬MovesAt format host paths surroundings source start last := by
    rintro refused last moves
    obtain ⟨entry, error, found, readable, -⟩ := moves.invalid
    exact refused (moves.clear.within (by omega) (by simp only [attemptPlace]; omega)) entry found
      readable
  refine Program.Ends.bind (Q := Fetched host paths start)
    (.mapError ((At.ends_readStateBytes paths).weaken (fun _ held => held) ?_)) (fun found => ?_) ?_
  · rintro (_ | _ | _) disk held
    · exact held
    · exact held
    · exact held
  swap
  · rintro error disk ⟨names, refused⟩
    exact .inl ⟨unread refused, names⟩
  cases found with
  | none =>
    dsimp only
    cases tryFirstRunWith surroundings.currentDir source with
    | error error => exact .fail fun disk held => .inl ⟨unread held.2, held.1⟩
    | ok seed => exact .pure fun disk held => .inl ⟨unread held.2, held.1⟩
  | some bytes =>
    dsimp only
    refine Program.Ends.knowing fun ⟨read, entry, found, readable, same⟩ => ?_
    subst same
    have names := secured_sameNames host start.entries paths.stateName
    -- The file is moved only if decoding it fails, and with no other error than this one.
    have decodes : (∀ error, decodeState format entry.bytes ≠ .error (.invalidJson error)) →
        ∀ last, ¬MovesAt format host paths surroundings source start last := by
      rintro valid last ⟨⟨other, error, there, -, invalid⟩, -, -, -, -, -⟩
      cases found.symm.trans there
      exact valid error invalid
    cases decoding : decodeState format entry.bytes with
    | ok decoded =>
      have never := decodes fun error invalid => nomatch decoding.symm.trans invalid
      dsimp only
      cases loadDecoded decoded source with
      | error error => exact .fail fun disk held => .inl ⟨never, held.entries ▸ names⟩
      | ok loaded => exact .pure fun disk held => .inl ⟨never, held.entries ▸ names⟩
    | error refusal =>
      cases refusal with
      | unsupportedVersion version =>
        have never := decodes fun error invalid => nomatch decoding.symm.trans invalid
        exact .fail fun disk held => .inl ⟨never, held.entries ▸ names⟩
      | invalidJson error =>
        dsimp only
        cases seeded : tryDefaultWith source with
        | error failure =>
          refine .fail fun disk held => .inl ⟨?_, held.entries ▸ names⟩
          rintro last ⟨-, ⟨seed, other⟩, -, -, -, -⟩
          exact nomatch seeded.symm.trans other
        | ok seed =>
          -- From here on it is the course of the backup.
          have clear : start.Clear 0 6 := (Disk.Clear.one opened).split read
          refine Program.Ends.bind (Q := fun result disk =>
            (∀ last, ¬MovesAt format host paths surroundings source start last) ∧
              SameNames start.entries disk.entries ∧ (∀ name, result ≠ .ok name) ∨
            ∃ last, MovesAt format host paths surroundings source start last ∧
              disk.entries paths.stateName = none ∧ ((∃ name, result = .ok name) ↔
                start.Clear (attemptPlace last + 3) (attemptPlace last + 8)))
            (.mapError ((ends_backupCourse found readable decoding seeded clear).weaken
              (fun _ held => held) ?_)) (fun backup => .pure ?_) ?_
          · rintro (_ | name) disk held
            · simpa [Except.mapError] using held
            · simpa [Except.mapError] using held
          · rintro disk (⟨-, -, never⟩ | ⟨last, moves, gone, ended⟩)
            · exact absurd rfl (never backup)
            · exact .inr ⟨last, moves, gone, fun _ => ended.mp ⟨backup, rfl⟩, fun _ => ⟨_, rfl⟩⟩
          · rintro failure disk (⟨never, same, -⟩ | ⟨last, moves, gone, ended⟩)
            · exact .inl ⟨never, same⟩
            · refine .inr ⟨last, moves, gone, nofun, fun cleared => ?_⟩
              obtain ⟨name, other⟩ := ended.mpr cleared
              cases other

theorem movedNotice_mentions (paths : StatePaths) (decodeError : String) (backup : FileName) :
    Mentions (movedNotice paths decodeError backup) (paths.withFileName backup) := by
  refine ⟨s!"state file {paths.statePath} could not be decoded ({decodeError}); it was moved to ",
    " and this session started from defaults", ?_⟩
  simp only [movedNotice, String.append_assoc]
  rfl

/-- Loading keeps the user's file, under its name or one that the caller is told, if and only if no
call fails once the file has been moved. -/
theorem load_keeps_iff (format : StateFormat) (host : StorageHost) (paths : StatePaths)
    (surroundings : Surroundings) (source : IdentitySource) (disk : Disk) :
    ∃ result, (StateStore.loadOrDefault format host paths surroundings source disk).1 =
        .ofExcept result ∧
      (FileKept paths disk.entries result
          (StateStore.loadOrDefault format host paths surroundings source disk).2.entries ↔
        ¬FailsAfterMove format host paths surroundings source disk) := by
  have left : Program.Ends (At disk 0 0 disk.entries)
      (StateStore.loadOrDefault format host paths surroundings source)
      fun result => On (LoadLeft format paths disk.entries result) :=
    (ends_loadOrDefault surroundings source).weaken (fun _ reached => reached.entries)
      fun _ _ held => held
  obtain ⟨result, ended, course, left⟩ := (ends_loadCourse.and left).result (.zero disk)
  refine ⟨result, ended, ?_⟩
  generalize (StateStore.loadOrDefault format host paths surroundings source disk).2 = next
    at course left ⊢
  refine ⟨fun keeps => ?_, fun quiet => ?_⟩
  · rintro ⟨last, moves, failed⟩
    -- The file was moved and a later call failed: its new name is told to nobody.
    rcases course with ⟨never, -⟩ | ⟨other, moved, gone, succeeds⟩
    · exact never last moves
    · cases moved.unique moves
      obtain ⟨entry, error, found, -⟩ := moves.invalid
      cases result with
      | ok loaded => exact failed (succeeds.mp ⟨loaded, rfl⟩)
      | error error => exact keeps.named error rfl (by rw [found]; exact nofun) gone
  · rcases course with ⟨-, names⟩ | ⟨last, moves, gone, succeeds⟩
    · rcases left with ⟨same, -⟩ | ⟨bytes, error, backup, ⟨entry, found, -⟩, -, moved, -⟩
      · refine ⟨fun bytes held => .inl ?_, fun error _ there gone => there ((names _).mp gone)⟩
        exact SameBytes.holds (fun name => (same name).symm) held
      · exact nomatch found.symm.trans ((names _).mp moved.gone)
    · -- The file was moved and no later call failed, so the load succeeds and names the backup.
      obtain ⟨loaded, rfl⟩ := succeeds.mpr
        (by_contra fun failed => quiet ⟨last, moves, failed⟩)
      obtain ⟨first, error, found, -, -⟩ := moves.invalid
      rcases left with ⟨same, -⟩ | ⟨bytes, error, backup, holds, -, moved, told⟩
      · have bytes := same paths.stateName
        rw [gone, found] at bytes
        cases bytes
      · refine ⟨fun other held => .inr ⟨backup, ?_, ?_⟩, nofun⟩
        · obtain ⟨entry, there, rfl⟩ := held
          have kept := moved.kept
          rw [there] at kept
          obtain ⟨after, stands, equal⟩ := Option.map_eq_some_iff.mp kept
          exact ⟨after, stands, equal⟩
        · exact ⟨_, told loaded rfl, movedNotice_mentions paths error backup⟩

end

def emptyFile : Directory := fun name =>
  if name = localState.stateName then some ⟨.regular, 1000, 1, 0o600, []⟩ else none

def inputOutput : Fault := ⟨⟨.other, "Input/output error (os error 5)"⟩, by decide⟩

/-- The file is moved, and opening it again fails. -/
def failsToReopen : Disk := .under emptyFile ⟨List.replicate 10 none ++ [some inputOutput], [], []⟩

/-- The workspaces of a start that has nothing to say. -/
def silentNames : Outcome StateError LoadedState → Option (List String)
  | .ok loaded => if loaded.notice.isNone then some (loaded.state.workspaces.map (·.name)) else none
  | _ => none

/-- The first start fails without a word of the backup, and the second one takes itself for the
first ever. -/
theorem moved_file_lost :
    let first := StateStore.loadOrDefault sampleFormat oneUser localState ⟨0, none⟩
      (countingSource 1) failsToReopen
    let second := StateStore.loadOrDefault sampleFormat oneUser localState ⟨0, none⟩
      (countingSource 1) (.under first.2.entries ⟨[], [], []⟩)
    first.1 = .error (.io inputOutput.error) ∧
      ¬FileKept localState emptyFile (.error (.io inputOutput.error)) first.2.entries ∧
      ∃ loaded, second.1 = .ok loaded ∧ loaded.notice = none ∧
        loaded.state.workspaces.map (·.name) = ["mult", "website"] := by
  intro first second
  have failed : first.1 = .error (.io inputOutput.error) := by decide +kernel
  have gone : first.2.entries localState.stateName = none := by decide +kernel
  refine ⟨failed, fun keeps => keeps.named _ rfl (by decide) gone, ?_⟩
  have starts : silentNames second.1 = some ["mult", "website"] := by decide +kernel
  cases reached : second.1 with
  | ok loaded =>
    rw [reached, silentNames, Option.ite_none_right_eq_some] at starts
    obtain ⟨silent, named⟩ := starts
    exact ⟨loaded, rfl, Option.isNone_iff_eq_none.mp silent, Option.some.inj named⟩
  | error error =>
    rw [reached] at starts
    cases starts
  | waiting =>
    rw [reached] at starts
    cases starts

end Mult.Storage
