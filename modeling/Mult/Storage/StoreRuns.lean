import Mult.Foundation.Machine
import Mult.Storage.LoadContract

/-! Clients of one state file, one after another: what becomes of a file that is newer than they
are.
-/

set_option autoImplicit false

namespace Mult.Storage
open Foundation Protocol Project

/-- What the system calls of one operation come to. -/
structure Conditions where
  calls : List (Option Fault)
  writes : List (Acceptance IoError)
  draws : List (BitVec 64)

def Disk.under (entries : Directory) (conditions : Conditions) : Disk :=
  ⟨entries, conditions.calls, conditions.writes, conditions.draws, []⟩

/-- How far the client that holds the lock has come, if there is one. -/
inductive Phase where
  | idle
  | acquired
  | loaded
  deriving DecidableEq, Repr

structure Store where
  entries : Directory
  phase : Phase

inductive StoreStep where
  /-- Anything done to the directory while no client of this version holds the lock. -/
  | change (entries : Directory)
  | acquire
  | load (conditions : Conditions) (surroundings : Surroundings) (source : IdentitySource)
  | save (conditions : Conditions) (state : ProjectState)
  | stop
  /-- `storage::save`, for callers that hold no store. -/
  | saveOnce (conditions : Conditions) (state : ProjectState)

namespace Store
variable (format : StateFormat) (host : StorageHost) (paths : StatePaths)

/-- A load that fails ends the client. -/
def loadOrDefault (store : Store) (conditions : Conditions) (surroundings : Surroundings)
    (source : IdentitySource) : Store :=
  match StateStore.loadOrDefault format host paths surroundings source
      (.under store.entries conditions) with
  | (.ok _, disk) => ⟨disk.entries, .loaded⟩
  | (_, disk) => ⟨disk.entries, .idle⟩

def save (store : Store) (conditions : Conditions) (state : ProjectState) : Store :=
  { store with entries :=
      (StateStore.save format host paths.stateName state (.under store.entries conditions)).2.entries }

def step (store : Store) : StoreStep → Option Store
  | .change entries => if store.phase = .idle then some { store with entries } else none
  | .acquire => if store.phase = .idle then some { store with phase := .acquired } else none
  | .load conditions surroundings source =>
      if store.phase = .acquired then
        some (store.loadOrDefault format host paths conditions surroundings source)
      else none
  | .save conditions state =>
      if store.phase = .loaded then some (store.save format host paths conditions state) else none
  | .stop => some { store with phase := .idle }
  | .saveOnce conditions state =>
      if store.phase = .idle then some (store.save format host paths conditions state) else none

end Store

/-- The clients, from any directory on. -/
def storeMachine (format : StateFormat) (host : StorageHost) (paths : StatePaths) :
    Machine Store StoreStep Empty where
  start store := store.phase = .idle
  step store action := (store.step format host paths action).map fun next => (next, [])

def Unsupported (format : StateFormat) (stateName : FileName) (entries : Directory) : Prop :=
  ∃ bytes version, Holds stateName bytes entries ∧
    decodeState format bytes = .error (.unsupportedVersion version)

/-- The serializer writes the version that it reads again, also before a line break. -/
def StateFormat.TellsVersion (format : StateFormat) : Prop :=
  ∀ state json, format.toStringPretty state = .ok json →
    format.envelope (json ++ [newlineByte]) = .ok state.version

def StoreStep.ofClient : StoreStep → Bool
  | .change _ | .saveOnce _ _ => false
  | .acquire | .load _ _ _ | .save _ _ | .stop => true

section
variable {format : StateFormat} {host : StorageHost} {paths : StatePaths}

theorem validateCurrentState_version {state : ProjectState}
    (valid : validateCurrentState state = .ok ()) : state.version = stateVersion := by
  unfold validateCurrentState at valid
  split at valid
  · cases valid
  · next same => exact Classical.not_not.mp same

theorem decodeState_unsupported {bytes : Bytes} {version : Nat}
    (refused : decodeState format bytes = .error (.unsupportedVersion version)) :
    format.envelope bytes = .ok version ∧ version ≠ stateVersion := by
  have invalid : ∀ {A : Type} (decoded : Except String A),
      decoded.mapError StateDecodeError.invalidJson ≠ .error (.unsupportedVersion version) := by
    intro A decoded
    cases decoded <;> exact nofun
  unfold decodeState at refused
  cases told : format.envelope bytes with
  | error error =>
    rw [told] at refused
    cases refused
  | ok number =>
    rw [told] at refused
    dsimp only at refused
    split at refused
    · exact absurd refused (invalid _)
    · split at refused
      · exact absurd refused (invalid _)
      · split at refused
        · exact absurd refused (invalid _)
        · split at refused
          · exact absurd refused (invalid _)
          · split at refused
            · exact absurd refused (invalid _)
            · next unknown =>
              cases refused
              exact ⟨rfl, unknown⟩

theorem Unsupported.ofSave (tells : format.TellsVersion) {stateName : FileName}
    {state : ProjectState} {disk : Disk}
    (unknown : Unsupported format stateName
      (StateStore.save format host stateName state disk).2.entries) :
    Unsupported format stateName disk.entries := by
  obtain ⟨result, ended, saved, guarded⟩ := save_saved format host stateName state disk
  by_cases valid : validateCurrentState state = .ok ()
  · cases encoded : format.toStringPretty state with
    | error error =>
      rw [(guarded (.inr ⟨error, encoded⟩)).2] at unknown
      exact unknown
    | ok json =>
      obtain ⟨bytes, version, holds, refused⟩ := unknown
      rcases (saved json encoded).whole with old | new
      · obtain ⟨entry, found, same⟩ := holds
        exact ⟨bytes, version, ⟨entry, old ▸ found, same⟩, refused⟩
      · obtain ⟨told, unknown⟩ := decodeState_unsupported refused
        rw [holds.unique new, tells state json encoded] at told
        exact absurd ((Except.ok.inj told).symm.trans (validateCurrentState_version valid)) unknown
  · rw [(guarded (.inl valid)).2] at unknown
    exact unknown

theorem loadOrDefault_left (store : Store) (conditions : Conditions)
    (surroundings : Surroundings) (source : IdentitySource) :
    let next := store.loadOrDefault format host paths conditions surroundings source
    ∃ result, LoadLeft format paths store.entries result next.entries ∧
      (next.phase = .loaded → ∃ loaded, result = .ok loaded) := by
  intro next
  obtain ⟨result, ended, left⟩ := (ends_loadOrDefault surroundings source).result
    (show On (fun entries => entries = store.entries) (Disk.under store.entries conditions) from rfl)
  refine ⟨result, ?_⟩
  unfold next Store.loadOrDefault
  generalize StateStore.loadOrDefault format host paths surroundings source
    (.under store.entries conditions) = ran at ended left ⊢
  obtain ⟨_, disk⟩ := ran
  dsimp only at ended
  subst ended
  cases result with
  | ok loaded => exact ⟨left, fun _ => ⟨loaded, rfl⟩⟩
  | error error => exact ⟨left, nofun⟩

theorem Unsupported.ofSameBytes {stateName : FileName} {start entries : Directory}
    (same : SameBytes start entries) (unknown : Unsupported format stateName entries) :
    Unsupported format stateName start := by
  obtain ⟨bytes, version, holds, refused⟩ := unknown
  exact ⟨bytes, version, same.holds holds, refused⟩

/-- A load leaves a file of an unknown version as it is, and where it succeeds there is none. -/
theorem loadOrDefault_unsupported (store : Store) (conditions : Conditions)
    (surroundings : Surroundings) (source : IdentitySource) :
    let next := store.loadOrDefault format host paths conditions surroundings source
    (Unsupported format paths.stateName store.entries → SameBytes store.entries next.entries) ∧
      (next.phase = .loaded → ¬Unsupported format paths.stateName next.entries) := by
  intro next
  obtain ⟨result, left, succeeds⟩ :=
    @loadOrDefault_left format host paths store conditions surroundings source
  rcases left with ⟨same, decodes⟩ | ⟨bytes, error, backup, holds, corrupt, moved, -⟩
  · refine ⟨fun _ => same, fun loads unknown => ?_⟩
    obtain ⟨loaded, done⟩ := succeeds loads
    obtain ⟨bytes, version, holds, refused⟩ := unknown.ofSameBytes same
    obtain ⟨decoded, decoding⟩ := decodes loaded done bytes holds
    exact nomatch decoding.symm.trans refused
  · refine ⟨?_, fun _ => ?_⟩
    · rintro ⟨other, version, there, refused⟩
      rw [there.unique holds, corrupt] at refused
      cases refused
    · rintro ⟨other, version, ⟨entry, there, -⟩, -⟩
      exact nomatch moved.gone.symm.trans there

/-- A client that has loaded the state has not found a file that is newer than it is. -/
theorem loaded_supported (tells : format.TellsVersion) {store : Store} {past : List Empty}
    (run : (storeMachine format host paths).Reaches store past) (loaded : store.phase = .loaded) :
    ¬Unsupported format paths.stateName store.entries := by
  revert loaded
  refine run.stateInvariant (motive := fun store => store.phase = .loaded →
    ¬Unsupported format paths.stateName store.entries) ?_ ?_
  · intro store idle loaded
    exact nomatch idle.symm.trans loaded
  · intro store next events action held stepped loaded
    obtain ⟨reached, moved, same⟩ := Option.map_eq_some_iff.mp stepped
    cases same
    cases action with
    | change entries =>
      obtain ⟨idle, same⟩ := Option.ite_none_right_eq_some.mp moved
      cases same
      exact nomatch idle.symm.trans loaded
    | acquire =>
      obtain ⟨-, same⟩ := Option.ite_none_right_eq_some.mp moved
      cases same
      cases loaded
    | load conditions surroundings source =>
      obtain ⟨-, same⟩ := Option.ite_none_right_eq_some.mp moved
      cases same
      exact (loadOrDefault_unsupported store conditions surroundings source).2 loaded
    | save conditions state =>
      obtain ⟨phase, same⟩ := Option.ite_none_right_eq_some.mp moved
      cases same
      exact fun unknown => held phase (Unsupported.ofSave tells unknown)
    | stop =>
      cases moved
      cases loaded
    | saveOnce conditions state =>
      obtain ⟨idle, same⟩ := Option.ite_none_right_eq_some.mp moved
      cases same
      exact nomatch idle.symm.trans loaded

/-- Saving replaces the state file whole or not at all, and no client that loads before it saves
changes a file that is newer than it is. -/
theorem saving_atomic (format : StateFormat) (host : StorageHost) :
    (∀ stateName state disk, ∃ result,
      (StateStore.save format host stateName state disk).1 = .ofExcept result ∧
      (∀ json, format.toStringPretty state = .ok json →
        Saved disk.entries stateName (json ++ [newlineByte]) result
          (StateStore.save format host stateName state disk).2) ∧
      (validateCurrentState state ≠ .ok () ∨ (∃ error, format.toStringPretty state = .error error) →
        result ≠ .ok () ∧ (StateStore.save format host stateName state disk).2 = disk)) ∧
    (format.TellsVersion → ∀ paths store past,
      (storeMachine format host paths).Reaches store past →
      Unsupported format paths.stateName store.entries → ∀ action next, action.ofClient = true →
      store.step format host paths action = some next →
      (next.entries paths.stateName).map Entry.bytes =
        (store.entries paths.stateName).map Entry.bytes) := by
  refine ⟨save_saved format host, ?_⟩
  intro tells paths store past run unknown action next client stepped
  cases action with
  | change entries => cases client
  | saveOnce conditions state => cases client
  | acquire =>
    obtain ⟨-, same⟩ := Option.ite_none_right_eq_some.mp stepped
    cases same
    rfl
  | load conditions surroundings source =>
    obtain ⟨-, same⟩ := Option.ite_none_right_eq_some.mp stepped
    cases same
    exact (loadOrDefault_unsupported store conditions surroundings source).1 unknown paths.stateName
  | save conditions state =>
    obtain ⟨loaded, -⟩ := Option.ite_none_right_eq_some.mp stepped
    exact absurd unknown (loaded_supported tells run loaded)
  | stop =>
    cases stepped
    rfl

def emptyProject : ProjectState :=
  ⟨stateVersion, ⟨1, bytes_one⟩, ⟨∅, ∅⟩, ∅, 1, 1, 1, []⟩

def emptyProjectJson : Bytes :=
  List.flatten <| List.intersperse [newlineByte] <| List.map ascii
    ["\x7b", "  \"version\": 5,", "  \"namespace\": \"00000000000000000000000000000001\",",
      "  \"session_identities\": \x7b", "    \"chats\": \x7b\x7d,", "    \"terminals\": \x7b\x7d",
      "  \x7d,", "  \"next_workspace_id\": 1,", "  \"next_chat_id\": 1,",
      "  \"next_terminal_id\": 1,", "  \"workspaces\": []", "\x7d"]

def isJsonBlank (byte : UInt8) : Bool := [0x20, 0x09, 0x0a, 0x0d].contains byte

def afterToken (token : String) (json : Bytes) : Except String Bytes :=
  match json.dropWhile isJsonBlank with
  | [] => .error "EOF while parsing a value"
  | text =>
    match (ascii token).isPrefixOf? text with
    | some rest => .ok rest
    | none => .error "expected value"

def leadingNumber (json : Bytes) : Except String Nat :=
  match (json.dropWhile isJsonBlank).takeWhile (fun byte => 0x30 ≤ byte && byte ≤ 0x39) with
  | [] => .error "expected value"
  | digits => .ok (digits.foldl (fun value digit => 10 * value + (digit.toNat - 0x30)) 0)

/-- Objects whose first field is their version, and in full the one that is the empty project. -/
def sampleFormat : StateFormat where
  toStringPretty state := if state = emptyProject then .ok emptyProjectJson else .error "not written"
  envelope json := do
    let fields ← afterToken "\x7b" json
    let value ← afterToken ":" (← afterToken "\"version\"" fields)
    leadingNumber value
  v1 _ := .error "missing field"
  v2 _ := .error "missing field"
  v3 _ := .error "missing field"
  current json :=
    if json.rdropWhile isJsonBlank = emptyProjectJson then .ok emptyProject
    else .error "missing field"

theorem sampleFormat_tells : sampleFormat.TellsVersion := by
  intro state json encoded
  simp only [sampleFormat] at encoded
  split at encoded
  · next empty =>
    cases encoded
    rw [empty]
    decide +kernel
  · cases encoded

def oneUser : StorageHost := ⟨1000, 77, false⟩
def localState : StatePaths := ⟨"/data/mult/", "state.json"⟩

def newerJson : Bytes := ascii "\x7b\"version\":6,\"profiles\":[\"work\"]\x7d" ++ [newlineByte]

def newerFile : Directory := fun name =>
  if name = localState.stateName then some ⟨.regular, 1000, 1, 0o600, newerJson⟩ else none

theorem newerFile_unsupported : Unsupported sampleFormat localState.stateName newerFile :=
  ⟨newerJson, 6, ⟨_, rfl, rfl⟩, by decide +kernel⟩

/-- A client that finds the newer file ends without having changed it. -/
theorem saving_atomic_newer :
    ∃ next, Store.step sampleFormat oneUser localState ⟨newerFile, .acquired⟩
        (.load ⟨[], [], []⟩ ⟨0, none⟩ ⟨fun _ => .ok 1, 0⟩) = some next ∧ next.phase = .idle ∧
      (next.entries localState.stateName).map Entry.bytes = some newerJson := by
  have begins : (storeMachine sampleFormat oneUser localState).start ⟨newerFile, .idle⟩ := rfl
  have acquired : (storeMachine sampleFormat oneUser localState).step ⟨newerFile, .idle⟩ .acquire =
      some (⟨newerFile, .acquired⟩, []) := rfl
  have run : (storeMachine sampleFormat oneUser localState).Reaches ⟨newerFile, .acquired⟩
      ([] ++ []) := .step (.start begins) trivial acquired
  obtain ⟨next, stepped, ended⟩ : ∃ next,
      Store.step sampleFormat oneUser localState ⟨newerFile, .acquired⟩
        (.load ⟨[], [], []⟩ ⟨0, none⟩ ⟨fun _ => .ok 1, 0⟩) = some next ∧ next.phase = .idle :=
    ⟨_, rfl, by decide +kernel⟩
  refine ⟨next, stepped, ended, ?_⟩
  exact (saving_atomic sampleFormat oneUser).2 sampleFormat_tells localState _ _ run
    newerFile_unsupported _ next rfl stepped

/-- A save for a caller that has not loaded the file replaces it. -/
theorem unsupported_file_replaced :
    decodeState sampleFormat newerJson = .error (.unsupportedVersion 6) ∧
    (newerFile localState.stateName).map Entry.bytes = some newerJson ∧
    ∃ next, Store.step sampleFormat oneUser localState ⟨newerFile, .idle⟩
        (.saveOnce ⟨[], [], []⟩ emptyProject) = some next ∧
      (next.entries localState.stateName).map Entry.bytes = some (emptyProjectJson ++ [newlineByte]) := by
  refine ⟨by decide +kernel, by decide +kernel, _, rfl, by decide +kernel⟩

end

end Mult.Storage
