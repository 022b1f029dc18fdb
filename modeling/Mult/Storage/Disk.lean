import Mathlib.Logic.Function.Basic
import Mult.Foundation.Endings
import Mult.Protocol.Framing

/-! The directory of the state file, and the system calls made on it, each of which may fail.
-/

set_option autoImplicit false

namespace Mult.Storage
open Foundation Protocol

abbrev FileName := String

inductive FileType where
  | regular
  | symlink
  | other
  deriving DecidableEq, Repr

structure Entry where
  fileType : FileType
  owner : Nat
  links : Nat
  mode : Nat
  bytes : Bytes
  deriving DecidableEq, Repr

abbrev Directory := FileName → Option Entry

inductive Syscall where
  | openRandom
  | readRandom
  | create (name : FileName)
  | open (name : FileName)
  | metadata (name : FileName)
  | setMode (name : FileName)
  | read (name : FileName)
  | write (name : FileName)
  | sync (name : FileName)
  | rename (source target : FileName)
  | unlink (name : FileName)
  | syncDirectory
  deriving DecidableEq, Repr

/-- A failure of a call. Whether a file exists is for the directory to say. -/
structure Fault where
  error : IoError
  kind_ne : error.kind ≠ .notFound

/-- The directory, what the calls to come come to, and the calls made so far. Of the calls to come,
those not listed succeed as far as the directory lets them. -/
structure Disk where
  entries : Directory
  calls : List (Option Fault)
  writes : List (Acceptance IoError)
  draws : List (BitVec 64)
  trace : List (Syscall × Option IoError)

/-- The process, and whether the file system ignores modes. -/
structure StorageHost where
  effectiveUid : Nat
  processId : Nat
  ignoresModes : Bool
  deriving DecidableEq, Repr

abbrev DiskProgram (A : Type) : Type := Program Disk IoError A

def Disk.logged (disk : Disk) (call : Syscall) (error : Option IoError) : Disk :=
  { disk with trace := disk.trace ++ [(call, error)] }

def syscall {A : Type} (call : Syscall) (effect : Directory → Except IoError (A × Directory)) :
    DiskProgram A := fun disk =>
  let left := { disk with calls := disk.calls.tail }
  match disk.calls.head?.join with
  | some fault => (.error fault.error, left.logged call (some fault.error))
  | none =>
    match effect disk.entries with
    | .error error => (.error error, left.logged call (some error))
    | .ok (value, entries) => (.ok value, { left with entries }.logged call none)

def noSuchFile : IoError := ⟨.notFound, "No such file or directory (os error 2)"⟩
def fileExists : IoError := ⟨.alreadyExists, "File exists (os error 17)"⟩
def symbolicLink : IoError := ⟨.other, "Too many levels of symbolic links (os error 40)"⟩

namespace SecureDirectory

/-- `open_file` with `O_WRONLY | O_CREAT | O_EXCL` -/
def createFile (host : StorageHost) (name : FileName) (mode : Nat) : DiskProgram Unit :=
  syscall (.create name) fun entries =>
    match entries name with
    | some _ => .error fileExists
    | none =>
        .ok ((), Function.update entries name (some ⟨.regular, host.effectiveUid, 1, mode, []⟩))

/-- `open_file` with `O_RDONLY | O_NONBLOCK` -/
def openFile (name : FileName) : DiskProgram Unit :=
  syscall (.open name) fun entries =>
    match entries name with
    | none => .error noSuchFile
    | some entry => if entry.fileType = .symlink then .error symbolicLink else .ok ((), entries)

def existsNoFollow (name : FileName) : DiskProgram Bool := do
  match ← (openFile name).attempt with
  | .ok () => pure true
  | .error error => if error.kind = .notFound then pure false else .fail error

def rename (source target : FileName) : DiskProgram Unit :=
  syscall (.rename source target) fun entries =>
    match entries source with
    | none => .error noSuchFile
    | some entry =>
        .ok ((), Function.update (Function.update entries source none) target (some entry))

def unlink (name : FileName) : DiskProgram Unit :=
  syscall (.unlink name) fun entries =>
    match entries name with
    | none => .error noSuchFile
    | some _ => .ok ((), Function.update entries name none)

def sync : DiskProgram Unit := syscall .syncDirectory fun entries => .ok ((), entries)

end SecureDirectory

/-- Of an open file, by the name it was opened under. -/
def metadata (name : FileName) : DiskProgram Entry :=
  syscall (.metadata name) fun entries =>
    match entries name with
    | none => .error noSuchFile
    | some entry => .ok (entry, entries)

def setFileMode (host : StorageHost) (name : FileName) (mode : Nat) : DiskProgram Unit :=
  syscall (.setMode name) fun entries =>
    .ok ((), if host.ignoresModes then entries
      else Function.update entries name ((entries name).map fun entry => { entry with mode }))

def validatePrivateRegularFile (host : StorageHost) (name : FileName) (description : String) :
    DiskProgram Unit := do
  let metadata ← metadata name
  if metadata.fileType ≠ .regular then
    .fail (.invalidData (description ++ " is not a regular file"))
  else if metadata.owner ≠ host.effectiveUid then
    .fail ⟨.permissionDenied, description ++ " is not owned by the effective user"⟩
  else if metadata.links ≠ 1 then
    .fail ⟨.permissionDenied, description ++ " has multiple hard links"⟩
  else pure ()

def securePrivateRegularFile (host : StorageHost) (name : FileName) (description : String) :
    DiskProgram Unit := do
  validatePrivateRegularFile host name description
  setFileMode host name 0o600
  let metadata ← metadata name
  if metadata.mode &&& 0o077 ≠ 0 then
    .fail ⟨.permissionDenied, description ++ " could not be restricted to owner-only access"⟩
  else pure ()

/-- `write_all` at the end of an open file. -/
def writeAll (name : FileName) (bytes : Bytes) : DiskProgram Unit := fun disk =>
  let (result, taken, writes) := writeOut writesNothing bytes disk.writes
  let entries := Function.update disk.entries name
    ((disk.entries name).map fun entry => { entry with bytes := entry.bytes ++ taken })
  let left := { disk with entries, writes }
  match result with
  | .error error => (.error error, left.logged (.write name) (some error))
  | .ok () => (.ok (), left.logged (.write name) none)

def syncAll (name : FileName) : DiskProgram Unit :=
  syscall (.sync name) fun entries => .ok ((), entries)

/-- `take(limit).read_to_end` -/
def readToEnd (name : FileName) (limit : Nat) : DiskProgram Bytes :=
  syscall (.read name) fun entries =>
    match entries name with
    | none => .error noSuchFile
    | some entry => .ok (entry.bytes.take limit, entries)

def readPrivateFile (host : StorageHost) (name : FileName) (description : String)
    (maxBytes : Nat) : DiskProgram (Option Bytes) := do
  match ← (SecureDirectory.openFile name).attempt with
  | .error error => if error.kind = .notFound then pure none else .fail error
  | .ok () => do
    securePrivateRegularFile host name description
    let bytes ← readToEnd name (maxBytes + 1)
    if maxBytes < bytes.length then
      .fail (.invalidData (description ++ s!" exceeds {maxBytes} bytes"))
    else pure (some bytes)

/-- `SecureIdentitySource::new` -/
def openEntropy : DiskProgram Unit := syscall .openRandom fun entries => .ok ((), entries)

def randomU64 : DiskProgram (BitVec 64) := do
  syscall .readRandom fun entries => .ok ((), entries)
  .perform fun disk => (disk.draws.head?.getD 0, { disk with draws := disk.draws.tail })

/-- As `{:016x}` prints it. -/
def hexadecimal (value : BitVec 64) : String :=
  String.ofList ((List.range 16).map fun place =>
    Nat.digitChar (value.toNat / 16 ^ (15 - place) % 16))

/-! ## What a call leaves -/

/-- A condition on the directory alone. -/
def On (condition : Directory → Prop) (disk : Disk) : Prop := condition disk.entries

section
variable {A : Type} {P : Directory → Prop}

theorem ends_logged {call : Syscall} {effect : Directory → Except IoError (A × Directory)}
    {Q : Except IoError A → Directory → Prop}
    (done : ∀ entries value next, P entries → effect entries = .ok (value, next) →
      Q (.ok value) next)
    (failed : ∀ entries error, P entries → Q (.error error) entries) :
    Program.Ends (On P) (syscall call effect) fun result disk => Q result disk.entries ∧
      ∀ error, result = .error error → disk.trace.getLast? = some (call, some error) := by
  intro disk held
  have last : ∀ error, (disk.trace ++ [(call, some error)]).getLast? = some (call, some error) :=
    fun error => List.getLast?_concat
  unfold syscall
  dsimp only
  cases disk.calls.head?.join with
  | some fault =>
    refine ⟨failed disk.entries fault.error held, ?_⟩
    rintro _ ⟨⟩
    exact last fault.error
  | none =>
    cases came : effect disk.entries with
    | error error =>
      refine ⟨failed disk.entries error held, ?_⟩
      rintro _ ⟨⟩
      exact last error
    | ok reached => exact ⟨done disk.entries reached.1 reached.2 held came, nofun⟩

theorem ends_syscall {call : Syscall} {effect : Directory → Except IoError (A × Directory)}
    {Q : Except IoError A → Directory → Prop}
    (done : ∀ entries value next, P entries → effect entries = .ok (value, next) →
      Q (.ok value) next)
    (failed : ∀ entries error, P entries → Q (.error error) entries) :
    Program.Ends (On P) (syscall call effect) fun result => On (Q result) :=
  (ends_logged done failed).weaken (fun _ held => held) fun _ _ held => held.1

theorem ends_openFile (name : FileName) :
    Program.Ends (On P) (SecureDirectory.openFile name) fun result => On fun entries =>
      P entries ∧ match result with
        | .ok () => ∃ entry, entries name = some entry
        | .error error => error.kind = .notFound → entries name = none := by
  intro disk held
  unfold SecureDirectory.openFile syscall
  dsimp only
  cases disk.calls.head?.join with
  | some fault => exact ⟨held, fun missing => absurd missing fault.kind_ne⟩
  | none =>
    cases found : disk.entries name with
    | none => exact ⟨held, fun _ => found⟩
    | some entry =>
      by_cases link : entry.fileType = .symlink
      · simp only [link, ↓reduceIte]
        exact ⟨held, fun missing => nomatch missing⟩
      · simp only [link, ↓reduceIte]
        exact ⟨held, entry, found⟩

theorem ends_still {call : Syscall} {effect : Directory → Except IoError (A × Directory)}
    (still : ∀ entries value next, effect entries = .ok (value, next) → next = entries) :
    Program.Ends (On P) (syscall call effect) fun _ => On P :=
  ends_syscall (fun _ _ _ held came => still _ _ _ came ▸ held) fun _ _ held => held

theorem ends_metadata (name : FileName) :
    Program.Ends (On P) (metadata name) fun _ => On P := by
  apply ends_still
  intro entries value next came
  split at came
  · cases came
  · cases came
    rfl

theorem ends_syncAll (name : FileName) : Program.Ends (On P) (syncAll name) fun _ => On P :=
  ends_still fun _ _ _ came => by cases came; rfl

theorem ends_sync : Program.Ends (On P) SecureDirectory.sync fun _ => On P :=
  ends_still fun _ _ _ came => by cases came; rfl

theorem ends_existsNoFollow (name : FileName) :
    Program.Ends (On P) (SecureDirectory.existsNoFollow name) fun result => On fun entries =>
      P entries ∧ (result = .ok false → entries name = none) := by
  refine (ends_openFile name).attempt fun result => ?_
  cases result with
  | ok opened => exact .pure fun _ held => ⟨held.1, nofun⟩
  | error error =>
    dsimp only
    split
    · next missing => exact .pure fun _ held => ⟨held.1, fun _ => held.2 missing⟩
    · exact .fail fun _ held => ⟨held.1, nofun⟩

theorem ends_randomU64 :
    Program.Ends (On P) randomU64 fun _ => On P := by
  refine (ends_still fun _ _ _ came => by cases came; rfl).bind (fun _ => ?_) fun _ _ held => held
  exact fun disk held => held

theorem ends_securePrivateRegularFile {host : StorageHost} {name : FileName} {description : String}
    (closed : ∀ entries mode, P entries →
      P (Function.update entries name ((entries name).map fun entry => { entry with mode }))) :
    Program.Ends (On P) (securePrivateRegularFile host name description) fun _ => On P := by
  have checked : Program.Ends (On P) (validatePrivateRegularFile host name description)
      fun _ => On P := by
    refine (ends_metadata name).bind (fun metadata => ?_) fun _ _ held => held
    split
    · exact .fail fun _ held => held
    · split
      · exact .fail fun _ held => held
      · split
        · exact .fail fun _ held => held
        · exact .pure fun _ held => held
  refine checked.bind (fun _ => ?_) fun _ _ held => held
  refine Program.Ends.bind (Q := fun _ => On P) (ends_syscall ?_ fun _ _ held => held)
    (fun _ => ?_) fun _ _ held => held
  · intro entries value next held came
    cases came
    split
    · exact held
    · exact closed entries 0o600 held
  · refine (ends_metadata name).bind (fun metadata => ?_) fun _ _ held => held
    split
    · exact .fail fun _ held => held
    · exact .pure fun _ held => held

end

end Mult.Storage
