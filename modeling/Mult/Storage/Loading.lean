import Mult.Project.Edits
import Mult.Storage.Saving

/-! Loading the state: what is read is decoded by its version, and a file that cannot be decoded is
moved aside.
-/

set_option autoImplicit false

namespace Mult.Storage
open Foundation Protocol Project

/-- The path of the state file, split before its name. -/
structure StatePaths where
  parent : PathBuf
  stateName : FileName
  deriving DecidableEq, Repr

def StatePaths.statePath (paths : StatePaths) : PathBuf := paths.parent ++ paths.stateName

def StatePaths.withFileName (paths : StatePaths) (name : FileName) : PathBuf := paths.parent ++ name

def maxStateFileBytes : Nat := 16 * 1024 * 1024

def corruptSuffix : String := ".corrupt-"

inductive StateDecodeError where
  | invalidJson (error : String)
  | unsupportedVersion (version : Nat)
  deriving DecidableEq, Repr

def decodeState (format : StateFormat) (bytes : Bytes) : Except StateDecodeError DecodedState :=
  match format.envelope bytes with
  | .error error => .error (.invalidJson error)
  | .ok version =>
    if version = 1 then ((format.v1 bytes).map .v1).mapError .invalidJson
    else if version = 2 then ((format.v2 bytes).map .v2).mapError .invalidJson
    else if version = 3 then ((format.v3 bytes).map .v3).mapError .invalidJson
    else if version = 4 then ((format.current bytes).map .v4).mapError .invalidJson
    else if version = stateVersion then ((format.current bytes).map .v5).mapError .invalidJson
    else .error (.unsupportedVersion version)

def tryDefaultWith (source : IdentitySource) : Except IoError (ProjectState × IdentitySource) :=
  match generateIdentity source (fun _ => false) with
  | (.error error, _) => .error error
  | (.ok stateNamespace, source) =>
    .ok ({ version := stateVersion
           stateNamespace
           sessionIdentities := ⟨∅, ∅⟩
           agentGenerations := ∅
           nextWorkspaceId := 1
           nextChatId := 1
           nextTerminalId := 1
           workspaces := [] }, source)

def addStarter (name : String) (cwd : Option PathBuf) (shell : String)
    (seed : ProjectState × IdentitySource) : Except IoError (ProjectState × IdentitySource) :=
  let (state, source) := seed
  match state.addWorkspace name cwd with
  -- Where the first ids are not free the source panics.
  | (.error error, _) => .error (allocationIoError error)
  | (.ok workspace, state) =>
    match state.addTerminalWithSource workspace shell .shell source with
    | (.error error, _) => .error (allocationIoError error)
    | (.ok _, added) => .ok (added, (state.sessionIdentities.allocateSessionToken source).2)

def tryFirstRunWith (currentDir : Option PathBuf) (source : IdentitySource) :
    Except IoError (ProjectState × IdentitySource) := do
  let seed ← tryDefaultWith source
  let mult ← addStarter "mult" currentDir "dev server" seed
  addStarter "website" none "shell" mult

section
variable (host : StorageHost) (paths : StatePaths)

def backupName (timestamp : Nat) (suffix : BitVec 64) : FileName :=
  paths.stateName ++ (corruptSuffix ++ toString timestamp ++ "-" ++ hexadecimal suffix)

def failedToMove (decodeError : String) (backup : FileName) (error : IoError) : IoError :=
  .invalidData
    (s!"state JSON is invalid ({decodeError}); failed to move {paths.statePath} to " ++
      s!"{paths.withFileName backup}: {error.text}")

def secureBackup (backup : FileName) : DiskProgram FileName := do
  SecureDirectory.openFile backup
  securePrivateRegularFile host backup "corrupt state backup"
  SecureDirectory.sync
  pure backup

def backupAttempts (decodeError : String) (timestamp : Nat) : Nat → DiskProgram FileName
  | 0 => .fail ⟨.alreadyExists, "could not choose a unique corrupt-state backup name"⟩
  | attempts + 1 => do
    let suffix ← randomU64
    let backup := backupName paths timestamp suffix
    if ← SecureDirectory.existsNoFollow backup then backupAttempts decodeError timestamp attempts
    else
      match ← (SecureDirectory.rename paths.stateName backup).attempt with
      | .error error => .fail (failedToMove paths decodeError backup error)
      | .ok () => secureBackup host backup

def backupInvalidState (decodeError : String) (timestamp : Nat) : DiskProgram FileName := do
  openEntropy
  backupAttempts host paths decodeError timestamp maxTempAttempts

end

/-- The clock and the directory of the process, which a load may need. -/
structure Surroundings where
  timestamp : Nat
  currentDir : Option PathBuf

def movedNotice (paths : StatePaths) (decodeError : String) (backup : FileName) : String :=
  s!"state file {paths.statePath} could not be decoded ({decodeError}); it was moved to " ++
    s!"{paths.withFileName backup} and this session started from defaults"

namespace StateStore

def readStateBytes (host : StorageHost) (paths : StatePaths) : DiskProgram (Option Bytes) :=
  readPrivateFile host paths.stateName ("state file " ++ paths.statePath) maxStateFileBytes

def loadWithIdentitySource (format : StateFormat) (host : StorageHost) (paths : StatePaths)
    (surroundings : Surroundings) (source : IdentitySource) : Program Disk StateError LoadedState :=
  do
  match ← (readStateBytes host paths).mapError .io with
  | none =>
    match tryFirstRunWith surroundings.currentDir source with
    | .error error => .fail (.io error)
    | .ok (state, _) => pure ⟨state, true, none⟩
  | some bytes =>
    match decodeState format bytes with
    | .ok decoded =>
      match loadDecoded decoded source with
      | .error error => .fail error
      | .ok (loaded, _) => pure loaded
    | .error (.invalidJson error) =>
      -- The replacement comes first: where it cannot be had, the file stays where it is.
      match tryDefaultWith source with
      | .error failure => .fail (.io failure)
      | .ok (state, _) => do
        let backup ← (backupInvalidState host paths error surroundings.timestamp).mapError .io
        pure ⟨state, true, some (movedNotice paths error backup)⟩
    | .error (.unsupportedVersion version) =>
      .fail (.unsupportedVersion paths.statePath version)

def loadOrDefault (format : StateFormat) (host : StorageHost) (paths : StatePaths)
    (surroundings : Surroundings) (source : IdentitySource) : Program Disk StateError LoadedState :=
  do
  openEntropy.mapError .io
  loadWithIdentitySource format host paths surroundings source

end StateStore

end Mult.Storage
