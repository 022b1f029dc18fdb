import Mult.Storage.Disk
import Mult.Storage.Migration

/-! Saving the state: a temporary file beside the state file that replaces it once it is complete.
-/

set_option autoImplicit false

namespace Mult.Storage
open Foundation Protocol Project

/-- How the serializer writes a state, and how it reads the version and each shape of one. -/
structure StateFormat where
  toStringPretty : ProjectState → Except String Bytes
  envelope : Bytes → Except String Nat
  v1 : Bytes → Except String StateV1
  v2 : Bytes → Except String StateV2
  v3 : Bytes → Except String StateV3
  current : Bytes → Except String ProjectState

def maxTempAttempts : Nat := 64

def tempName (host : StorageHost) (stateName : FileName) (suffix : BitVec 64) : FileName :=
  stateName ++ (".tmp-" ++ toString host.processId ++ "-" ++ hexadecimal suffix)

def replaceState (host : StorageHost) (stateName temp : FileName) (contents : Bytes) :
    DiskProgram Unit := do
  securePrivateRegularFile host temp "temporary state file"
  writeAll temp contents
  syncAll temp
  SecureDirectory.rename temp stateName
  SecureDirectory.sync

def saveAttempts (host : StorageHost) (stateName : FileName) (contents : Bytes) :
    Nat → DiskProgram Unit
  | 0 => .fail ⟨.alreadyExists, "could not create a unique temporary state file"⟩
  | attempts + 1 => do
    let suffix ← randomU64
    let temp := tempName host stateName suffix
    match ← (SecureDirectory.createFile host temp 0o600).attempt with
    | .error error =>
      if error.kind = .alreadyExists then saveAttempts host stateName contents attempts
      else .fail error
    | .ok () =>
      match ← (replaceState host stateName temp contents).attempt with
      | .ok () => pure ()
      | .error error => do
        -- The temporary file goes, whatever failed; that it may not go is not reported.
        let _ ← (SecureDirectory.unlink temp).attempt
        .fail error

def newlineByte : UInt8 := 10

def saveToDirectory (format : StateFormat) (host : StorageHost) (state : ProjectState)
    (stateName : FileName) : DiskProgram Unit :=
  match format.toStringPretty state with
  | .error error => .fail (.invalidData error)
  | .ok json => do
    openEntropy
    saveAttempts host stateName (json ++ [newlineByte]) maxTempAttempts

namespace StateStore

def save (format : StateFormat) (host : StorageHost) (stateName : FileName)
    (state : ProjectState) : Program Disk StateError Unit :=
  match validateCurrentState state with
  | .error error => .fail error
  | .ok () => (saveToDirectory format host state stateName).mapError .io

end StateStore

/-! ## What saving leaves -/

section
variable (start : Directory) (stateName temp : FileName) (contents : Bytes)

def Elsewhere (entries : Directory) : Prop := ∀ name, name ≠ temp → entries name = start name

def Holds (name : FileName) (bytes : Bytes) (entries : Directory) : Prop :=
  ∃ entry, entries name = some entry ∧ entry.bytes = bytes

/-- The temporary file holds so much, and all else is as it was. -/
def Prepared (bytes : Bytes) (entries : Directory) : Prop :=
  Elsewhere start temp entries ∧ Holds temp bytes entries

def Replaced (entries : Directory) : Prop :=
  Holds stateName contents entries ∧ entries temp = none ∧
    ∀ name, name ≠ stateName → name ≠ temp → entries name = start name

/-- The state file is whole, old or new, and on success new. All other files are as they were, but
for a temporary file where the last call was to remove it, in vain. A crash between two calls leaves
what the failure of all calls from there on leaves. -/
structure Saved {E : Type} (result : Except E Unit) (disk : Disk) : Prop where
  whole : disk.entries stateName = start stateName ∨ Holds stateName contents disk.entries
  success : result = .ok () → Holds stateName contents disk.entries
  others : ∀ name, name ≠ stateName → disk.entries name = start name ∨
    start name = none ∧ result ≠ .ok () ∧
      ∃ error, disk.trace.getLast? = some (.unlink name, some error)

end

section
variable {host : StorageHost} {start : Directory} {stateName temp : FileName} {contents : Bytes}

theorem Elsewhere.update {entries : Directory} (elsewhere : Elsewhere start temp entries)
    (entry : Option Entry) : Elsewhere start temp (Function.update entries temp entry) := by
  intro name other
  rw [Function.update_of_ne other]
  exact elsewhere name other

theorem Prepared.setMode {bytes : Bytes} {entries : Directory}
    (prepared : Prepared start temp bytes entries) (mode : Nat) :
    Prepared start temp bytes
      (Function.update entries temp ((entries temp).map fun entry => { entry with mode })) := by
  obtain ⟨elsewhere, entry, found, same⟩ := prepared
  refine ⟨elsewhere.update _, { entry with mode }, ?_, same⟩
  rw [Function.update_self, found]
  rfl

theorem ends_writeAll :
    Program.Ends (On (Prepared start temp [])) (writeAll temp contents) fun result =>
      On fun entries => match result with
        | .ok () => Prepared start temp contents entries
        | .error _ => Elsewhere start temp entries := by
  rintro disk ⟨elsewhere, entry, found, empty⟩
  obtain ⟨rest, split, whole⟩ := writeOut_taken writesNothing contents disk.writes
  unfold writeAll
  generalize writeOut writesNothing contents disk.writes = came at split whole ⊢
  obtain ⟨_ | _, taken, writes⟩ := came
  · exact elsewhere.update _
  · refine ⟨elsewhere.update _, { entry with bytes := entry.bytes ++ taken }, ?_, ?_⟩
    · change Function.update disk.entries temp _ temp = _
      rw [Function.update_self, found]
      rfl
    · rw [split, whole rfl, empty, List.append_nil]
      rfl

theorem ends_rename (apart : temp ≠ stateName) :
    Program.Ends (On (Prepared start temp contents)) (SecureDirectory.rename temp stateName)
      fun result => On fun entries => match result with
        | .ok () => Replaced start stateName temp contents entries
        | .error _ => Elsewhere start temp entries := by
  apply ends_syscall
  · rintro entries value next ⟨elsewhere, entry, found, same⟩ came
    rw [found] at came
    cases came
    refine ⟨⟨entry, Function.update_self .., same⟩, ?_, ?_⟩
    · rw [Function.update_of_ne apart, Function.update_self]
    · intro name notState notTemp
      rw [Function.update_of_ne notState, Function.update_of_ne notTemp]
      exact elsewhere name notTemp
  · rintro entries error ⟨elsewhere, -⟩
    exact elsewhere

theorem ends_replaceState (apart : temp ≠ stateName) :
    Program.Ends (On (Prepared start temp [])) (replaceState host stateName temp contents)
      fun result => On fun entries => match result with
        | .ok () => Replaced start stateName temp contents entries
        | .error _ => Elsewhere start temp entries ∨
            Replaced start stateName temp contents entries := by
  refine (ends_securePrivateRegularFile fun _ mode prepared => prepared.setMode mode).bind
    (fun _ => ?_) fun _ _ held => .inl held.1
  refine ends_writeAll.bind (fun _ => ?_) fun _ _ held => .inl held
  refine (ends_syncAll temp).bind (fun _ => ?_) fun _ _ held => .inl held.1
  refine (ends_rename apart).bind (fun _ => ?_) fun _ _ held => .inl held
  refine ends_sync.weaken (fun _ held => held) ?_
  rintro (_ | _) disk held
  · exact .inr held
  · exact held

theorem Saved.ofFailure (apart : temp ≠ stateName) (unused : start temp = none) {disk : Disk}
    (left : Elsewhere start temp disk.entries ∨ Replaced start stateName temp contents disk.entries)
    (removed : disk.entries temp = none ∨
      ∃ error, disk.trace.getLast? = some (.unlink temp, some error)) {E : Type} (error : E) :
    Saved start stateName contents (.error error) disk where
  whole := left.imp (fun elsewhere => elsewhere stateName apart.symm) And.left
  success := nofun
  others := by
    intro name notState
    by_cases same : name = temp
    · subst same
      rcases removed with none | last
      · exact .inl (none.trans unused.symm)
      · exact .inr ⟨unused, nofun, last⟩
    · rcases left with elsewhere | replaced
      · exact .inl (elsewhere name same)
      · exact .inl (replaced.2.2 name notState same)

theorem ends_discard (apart : temp ≠ stateName) (unused : start temp = none) (error : IoError) :
    Program.Ends
      (On fun entries => Elsewhere start temp entries ∨
        Replaced start stateName temp contents entries)
      (do
        let _ ← (SecureDirectory.unlink temp).attempt
        Program.fail error)
      (Saved start stateName contents) := by
  refine Program.Ends.attempt (Q := fun _ => Saved start stateName contents (.error error)) ?_
    fun _ => .fail fun _ held => held
  refine (ends_logged (Q := fun result entries => (Elsewhere start temp entries ∨
    Replaced start stateName temp contents entries) ∧ (result = .ok () → entries temp = none))
    ?_ ?_).weaken (fun _ held => held) ?_
  · intro entries value next left came
    split at came
    · cases came
    · cases came
      refine ⟨left.imp (fun elsewhere => elsewhere.update none) ?_,
        fun _ => Function.update_self ..⟩
      rintro ⟨⟨new, here, same⟩, -, others⟩
      refine ⟨⟨new, ?_, same⟩, Function.update_self .., fun name notState notTemp => ?_⟩
      · rw [Function.update_of_ne apart.symm, here]
      · rw [Function.update_of_ne notTemp, others name notState notTemp]
  · exact fun entries failed left => ⟨left, nofun⟩
  · rintro result disk ⟨⟨left, removed⟩, last⟩
    refine .ofFailure apart unused left ?_ error
    cases result with
    | ok done => exact .inl (removed rfl)
    | error failed => exact .inr ⟨failed, last failed rfl⟩

theorem tempName_ne (host : StorageHost) (stateName : FileName) (suffix : BitVec 64) :
    tempName host stateName suffix ≠ stateName := by
  intro same
  have longer := congrArg String.length same
  simp [tempName] at longer

theorem Saved.untouched {E : Type} (error : E) {disk : Disk} (same : disk.entries = start) :
    Saved start stateName contents (.error error) disk where
  whole := .inl (congrFun same stateName)
  success := nofun
  others name _ := .inl (congrFun same name)

theorem ends_createFile (mode : Nat) :
    Program.Ends (On fun entries => entries = start) (SecureDirectory.createFile host temp mode)
      fun result => On fun entries => match result with
        | .ok () => Prepared start temp [] entries ∧ start temp = none
        | .error _ => entries = start := by
  apply ends_syscall
  · rintro entries value next rfl came
    split at came
    · cases came
    · next unused =>
      cases came
      exact ⟨⟨fun name other => Function.update_of_ne other .., _, Function.update_self .., rfl⟩,
        unused⟩
  · exact fun _ _ same => same

theorem ends_saveAttempts (attempts : Nat) :
    Program.Ends (On fun entries => entries = start)
      (saveAttempts host stateName contents attempts) (Saved start stateName contents) := by
  induction attempts with
  | zero => exact .fail fun _ same => .untouched _ same
  | succ attempts ih =>
    refine (ends_randomU64 (P := fun entries => entries = start)).bind (fun suffix => ?_)
      fun error _ same => .untouched error same
    have apart := tempName_ne host stateName suffix
    dsimp only
    generalize tempName host stateName suffix = temp at apart
    refine (ends_createFile 0o600).attempt fun created => ?_
    cases created with
    | error error =>
      dsimp only
      split
      · exact ih
      · exact .fail fun _ same => .untouched error same
    | ok done =>
      by_cases unused : start temp = none
      · refine ((ends_replaceState apart).weaken (fun _ held => held.1) fun _ _ held => held).attempt
          fun replaced => ?_
        cases replaced with
        | error error => exact ends_discard apart unused error
        | ok done =>
          refine .pure fun disk replaced => ⟨.inr replaced.1, fun _ => replaced.1, ?_⟩
          intro name notState
          by_cases same : name = temp
          · exact .inl (same ▸ replaced.2.1.trans unused.symm)
          · exact .inl (replaced.2.2 name notState same)
      · exact fun _ held => absurd held.2 unused

theorem Saved.mapError {E F : Type} {tell : E → F} {result : Except E Unit} {disk : Disk}
    (saved : Saved start stateName contents result disk) :
    Saved start stateName contents (result.mapError tell) disk := by
  have same : result.mapError tell = .ok () ↔ result = .ok () := by
    cases result <;> simp [Except.mapError]
  refine ⟨saved.whole, fun done => saved.success (same.mp done), fun name other => ?_⟩
  exact (saved.others name other).imp id fun left => ⟨left.1, same.not.mpr left.2.1, left.2.2⟩

theorem ends_saveToDirectory {format : StateFormat} {state : ProjectState} {json : Bytes}
    (encoded : format.toStringPretty state = .ok json) :
    Program.Ends (On fun entries => entries = start)
      (saveToDirectory format host state stateName)
      (Saved start stateName (json ++ [newlineByte])) := by
  unfold saveToDirectory
  rw [encoded]
  refine Program.Ends.bind (Q := fun _ => On fun entries => entries = start)
    (ends_still fun _ _ _ came => ?_) (fun _ => ends_saveAttempts maxTempAttempts)
    fun error _ same => .untouched error same
  cases came
  rfl

/-- Whatever fails and wherever, the state file is the old or the new one, and whole; it is the new
one on success; and a temporary file is left only where removing it failed. Of a state that this
version may not write, nothing is. -/
theorem save_saved (format : StateFormat) (host : StorageHost) (stateName : FileName)
    (state : ProjectState) (disk : Disk) :
    ∃ result, (StateStore.save format host stateName state disk).1 = .ofExcept result ∧
      (∀ json, format.toStringPretty state = .ok json →
        Saved disk.entries stateName (json ++ [newlineByte]) result
          (StateStore.save format host stateName state disk).2) ∧
      (validateCurrentState state ≠ .ok () ∨ (∃ error, format.toStringPretty state = .error error) →
        result ≠ .ok () ∧ (StateStore.save format host stateName state disk).2 = disk) := by
  unfold StateStore.save
  cases validateCurrentState state with
  | error error =>
    exact ⟨.error error, rfl, fun _ _ => .untouched error rfl, fun _ => ⟨nofun, rfl⟩⟩
  | ok done =>
    cases encoded : format.toStringPretty state with
    | error error =>
      refine ⟨.error (.io (.invalidData error)), ?_, nofun, fun _ => ⟨nofun, ?_⟩⟩ <;>
        simp only [saveToDirectory, encoded] <;> rfl
    | ok json =>
      have ends : Program.Ends (On fun entries => entries = disk.entries)
          ((saveToDirectory format host state stateName).mapError StateError.io)
          (Saved disk.entries stateName (json ++ [newlineByte])) :=
        .mapError ((ends_saveToDirectory encoded).weaken (fun _ same => same)
          fun _ _ saved => saved.mapError)
      obtain ⟨result, ended, saved⟩ := ends.result rfl
      refine ⟨result, ended, ?_, by simp⟩
      rintro _ ⟨⟩
      exact saved

end

end Mult.Storage
