import Mult.Storage.Loading

/-! What loading leaves of the state file: its bytes stay where they are, or they are those of a
file that cannot be decoded and stand under a backup name.
-/

set_option autoImplicit false

namespace Mult.Storage
open Foundation Protocol Project

def SameBytes (start entries : Directory) : Prop :=
  ∀ name, (entries name).map Entry.bytes = (start name).map Entry.bytes

/-- The state file has been moved. -/
structure Moved (start : Directory) (stateName backup : FileName) (entries : Directory) :
    Prop where
  gone : entries stateName = none
  free : start backup = none
  kept : (entries backup).map Entry.bytes = (start stateName).map Entry.bytes
  others : ∀ name, name ≠ stateName → name ≠ backup →
    (entries name).map Entry.bytes = (start name).map Entry.bytes

/-- What the move leaves, made or not. -/
def Renamed (start : Directory) (stateName backup : FileName) :
    Except IoError Unit → Directory → Prop
  | .ok () => Moved start stateName backup
  | .error _ => SameBytes start

/-- What loading leaves. Only a file that cannot be decoded is moved, and a load that succeeds then
tells where it is; one that succeeds otherwise has decoded the file, if there was one. -/
def LoadLeft (format : StateFormat) (paths : StatePaths) (start : Directory)
    (result : Except StateError LoadedState) (entries : Directory) : Prop :=
  SameBytes start entries ∧ (∀ loaded, result = .ok loaded → ∀ bytes,
    Holds paths.stateName bytes start → ∃ decoded, decodeState format bytes = .ok decoded) ∨
  ∃ bytes error backup, Holds paths.stateName bytes start ∧
    decodeState format bytes = .error (.invalidJson error) ∧
    Moved start paths.stateName backup entries ∧
    ∀ loaded, result = .ok loaded → loaded.notice = some (movedNotice paths error backup)

section
variable {format : StateFormat} {host : StorageHost} {paths : StatePaths} {start : Directory}

theorem SameBytes.refl (start : Directory) : SameBytes start start := fun _ => rfl

theorem SameBytes.holds {entries : Directory} (same : SameBytes start entries) {name : FileName}
    {bytes : Bytes} (held : Holds name bytes entries) : Holds name bytes start := by
  obtain ⟨entry, found, rfl⟩ := held
  have bytes := same name
  rw [found] at bytes
  obtain ⟨first, there, equal⟩ := Option.map_eq_some_iff.mp bytes.symm
  exact ⟨first, there, equal⟩

theorem setMode_bytes (entries : Directory) (name : FileName) (mode : Nat) (other : FileName) :
    (Function.update entries name ((entries name).map fun entry => { entry with mode }) other).map
      Entry.bytes = (entries other).map Entry.bytes := by
  by_cases same : other = name
  · subst same
    rw [Function.update_self, Option.map_map]
    rfl
  · rw [Function.update_of_ne same]

theorem ends_readToEnd (name : FileName) (limit : Nat) {P : Directory → Prop} :
    Program.Ends (On P) (readToEnd name limit) fun result => On fun entries => P entries ∧
      ∀ bytes, result = .ok bytes → ∃ entry, entries name = some entry ∧
        bytes = entry.bytes.take limit := by
  apply ends_syscall
  · intro entries value next held came
    split at came
    · cases came
    · next entry found =>
      cases came
      refine ⟨held, ?_⟩
      rintro bytes ⟨⟩
      exact ⟨entry, found, rfl⟩
  · exact fun _ _ held => ⟨held, nofun⟩

theorem ends_readStateBytes :
    Program.Ends (On fun entries => entries = start) (StateStore.readStateBytes host paths)
      fun result => On fun entries => SameBytes start entries ∧ ∀ found, result = .ok found →
        match found with
        | none => start paths.stateName = none
        | some bytes => Holds paths.stateName bytes start := by
  refine (ends_openFile paths.stateName).attempt fun opened => ?_
  cases opened with
  | error error =>
    dsimp only
    split
    · next missing =>
      refine .pure ?_
      rintro disk ⟨same, absent⟩
      refine ⟨?_, ?_⟩
      · rw [same]
        exact .refl start
      · rintro found ⟨⟩
        exact same ▸ absent missing
    · refine .fail ?_
      rintro disk ⟨same, -⟩
      exact ⟨same ▸ .refl start, nofun⟩
  | ok done =>
    refine Program.Ends.bind (Q := fun _ => On (SameBytes start)) ?_ (fun _ => ?_)
      fun _ _ same => ⟨same, nofun⟩
    · refine (ends_securePrivateRegularFile fun entries mode same name =>
        (setMode_bytes entries paths.stateName mode name).trans (same name)).weaken ?_
          fun _ _ same => same
      rintro disk ⟨same, -⟩
      rw [On, same]
      exact .refl start
    · refine (ends_readToEnd paths.stateName (maxStateFileBytes + 1)).bind (fun bytes => ?_)
        fun _ _ held => ⟨held.1, nofun⟩
      split
      · exact .fail fun _ held => ⟨held.1, nofun⟩
      · next fits =>
        refine .pure ?_
        rintro disk ⟨same, read⟩
        refine ⟨same, ?_⟩
        rintro found ⟨⟩
        obtain ⟨entry, there, rfl⟩ := read bytes rfl
        rw [List.length_take] at fits
        rw [List.take_of_length_le (by omega)]
        exact same.holds ⟨entry, there, rfl⟩

theorem Moved.setMode {entries : Directory} {stateName backup : FileName}
    (moved : Moved start stateName backup entries) (apart : backup ≠ stateName) (mode : Nat) :
    Moved start stateName backup
      (Function.update entries backup ((entries backup).map fun entry => { entry with mode })) where
  gone := (Function.update_of_ne apart.symm ..).trans moved.gone
  free := moved.free
  kept := (setMode_bytes entries backup mode backup).trans moved.kept
  others name notState notBackup :=
    (setMode_bytes entries backup mode name).trans (moved.others name notState notBackup)

theorem backupName_ne (timestamp : Nat) (suffix : BitVec 64) :
    backupName paths timestamp suffix ≠ paths.stateName := by
  intro same
  have longer := congrArg String.length same
  simp [backupName, corruptSuffix] at longer

theorem ends_secureBackup {stateName backup : FileName} (apart : backup ≠ stateName) :
    Program.Ends (On (Moved start stateName backup)) (secureBackup host backup)
      fun result => On fun entries => Moved start stateName backup entries ∧
        ∀ name, result = .ok name → name = backup := by
  refine (ends_openFile backup).bind (fun _ => ?_) fun _ _ held => ⟨held.1, nofun⟩
  refine Program.Ends.bind (Q := fun _ => On (Moved start stateName backup)) ?_ (fun _ => ?_)
    fun _ _ moved => ⟨moved, nofun⟩
  · exact (ends_securePrivateRegularFile fun entries mode moved =>
      moved.setMode apart mode).weaken (fun _ held => held.1) fun _ _ moved => moved
  · refine ends_sync.bind (fun _ => .pure fun disk moved => ⟨moved, ?_⟩)
      fun _ _ moved => ⟨moved, nofun⟩
    rintro name ⟨⟩
    rfl

/-- The state file stays, or it is moved and the name it has then is the result. -/
theorem ends_backupAttempts (decodeError : String) (timestamp attempts : Nat) :
    Program.Ends (On (SameBytes start)) (backupAttempts host paths decodeError timestamp attempts)
      fun result => On fun entries =>
        SameBytes start entries ∧ (∀ name, result ≠ .ok name) ∨
        ∃ backup, Moved start paths.stateName backup entries ∧
          ∀ name, result = .ok name → name = backup := by
  induction attempts with
  | zero => exact .fail fun _ same => .inl ⟨same, nofun⟩
  | succ attempts ih =>
    refine ends_randomU64.bind (fun suffix => ?_) fun _ _ same => .inl ⟨same, nofun⟩
    have apart : backupName paths timestamp suffix ≠ paths.stateName :=
      backupName_ne timestamp suffix
    dsimp only
    generalize backupName paths timestamp suffix = backup at apart
    refine (ends_existsNoFollow backup).bind (fun taken => ?_) fun _ _ held =>
      .inl ⟨held.1, nofun⟩
    cases taken with
    | true => exact ih.weaken (fun _ held => held.1) fun _ _ left => left
    | false =>
      refine Program.Ends.attempt (Q := fun result => On (Renamed start paths.stateName backup result))
        (ends_syscall ?_ fun _ _ held => held.1) fun renamed => ?_
      · rintro entries value next ⟨same, free⟩ came
        have unused : start backup = none := by
          have bytes := same backup
          rw [free rfl] at bytes
          exact Option.map_eq_none_iff.mp bytes.symm
        cases found : entries paths.stateName with
        | none =>
          rw [found] at came
          cases came
        | some entry =>
          rw [found] at came
          cases came
          refine ⟨?_, unused, ?_, fun name notState notBackup => ?_⟩
          · rw [Function.update_of_ne apart.symm, Function.update_self]
          · rw [Function.update_self, ← same paths.stateName, found]
          · rw [Function.update_of_ne notBackup, Function.update_of_ne notState]
            exact same name
      · cases renamed with
        | error error => exact .fail fun _ same => .inl ⟨same, nofun⟩
        | ok done =>
          exact (ends_secureBackup apart).weaken (fun _ moved => moved) fun _ _ moved =>
            .inr ⟨backup, moved⟩

theorem Holds.unique {name : FileName} {first second : Bytes} {entries : Directory}
    (one : Holds name first entries) (other : Holds name second entries) : first = second := by
  obtain ⟨entry, found, rfl⟩ := one
  obtain ⟨again, same, rfl⟩ := other
  rw [found] at same
  cases same
  rfl

theorem ends_openEntropy {P : Directory → Prop} :
    Program.Ends (On P) openEntropy fun _ => On P :=
  ends_still fun _ _ _ came => by cases came; rfl

theorem ends_backupInvalidState (decodeError : String) (timestamp : Nat) :
    Program.Ends (On (SameBytes start)) (backupInvalidState host paths decodeError timestamp)
      fun result => On fun entries =>
        SameBytes start entries ∧ (∀ name, result ≠ .ok name) ∨
        ∃ backup, Moved start paths.stateName backup entries ∧
          ∀ name, result = .ok name → name = backup :=
  ends_openEntropy.bind (fun _ => ends_backupAttempts decodeError timestamp maxTempAttempts)
    fun _ _ same => .inl ⟨same, nofun⟩

theorem LoadLeft.failed {error : StateError} {entries : Directory}
    (same : SameBytes start entries) : LoadLeft format paths start (.error error) entries :=
  .inl ⟨same, nofun⟩

theorem ends_loadWithIdentitySource (surroundings : Surroundings) (source : IdentitySource) :
    Program.Ends (On fun entries => entries = start)
      (StateStore.loadWithIdentitySource format host paths surroundings source)
      fun result => On (LoadLeft format paths start result) := by
  refine Program.Ends.bind (Q := fun result => On fun entries => SameBytes start entries ∧
    ∀ found, result = .ok found → match found with
      | none => start paths.stateName = none
      | some bytes => Holds paths.stateName bytes start) (.mapError ?_) (fun found => ?_)
    fun error _ held => .failed held.1
  · refine ends_readStateBytes.weaken (fun _ same => same) ?_
    rintro (_ | found) disk ⟨same, read⟩
    · exact ⟨same, nofun⟩
    · refine ⟨same, ?_⟩
      rintro _ ⟨⟩
      exact read found rfl
  · cases found with
    | none =>
      dsimp only
      cases tryFirstRunWith surroundings.currentDir source with
      | error error => exact .fail fun _ held => .failed held.1
      | ok seed =>
        refine .pure fun disk held => .inl ⟨held.1, fun _ _ bytes ⟨entry, there, _⟩ => ?_⟩
        exact absurd (held.2 none rfl) (by rw [there]; exact nofun)
    | some bytes =>
      dsimp only
      cases decoding : decodeState format bytes with
      | ok decoded =>
        dsimp only
        cases loadDecoded decoded source with
        | error error => exact .fail fun _ held => .failed held.1
        | ok loaded =>
          refine .pure fun disk held => .inl ⟨held.1, fun _ _ other holds => ?_⟩
          rw [holds.unique (held.2 _ rfl)]
          exact ⟨decoded, decoding⟩
      | error refusal =>
        cases refusal with
        | unsupportedVersion version => exact .fail fun _ held => .failed held.1
        | invalidJson error =>
          dsimp only
          cases tryDefaultWith source with
          | error failure => exact .fail fun _ held => .failed held.1
          | ok seed =>
            by_cases holds : Holds paths.stateName bytes start
            · refine Program.Ends.bind (Q := fun result => On fun entries =>
                SameBytes start entries ∧ (∀ name, result ≠ .ok name) ∨
                ∃ backup, Moved start paths.stateName backup entries ∧
                  ∀ name, result = .ok name → name = backup)
                (.mapError ((ends_backupInvalidState error surroundings.timestamp).weaken
                  (fun _ held => held.1) ?_)) (fun backup => .pure ?_) ?_
              · rintro (_ | name) disk left
                · exact left.imp (fun held => ⟨held.1, nofun⟩)
                    fun ⟨backup, moved, _⟩ => ⟨backup, moved, nofun⟩
                · refine left.imp (fun held => absurd rfl (held.2 name)) ?_
                  rintro ⟨backup, moved, named⟩
                  refine ⟨backup, moved, ?_⟩
                  rintro _ ⟨⟩
                  exact named name rfl
              · rintro disk (⟨-, never⟩ | ⟨moved, there, named⟩)
                · exact absurd rfl (never backup)
                · refine .inr ⟨bytes, error, moved, holds, decoding, there, ?_⟩
                  rintro _ ⟨⟩
                  rw [named backup rfl]
              · rintro failure disk (⟨same, -⟩ | ⟨backup, moved, -⟩)
                · exact .failed same
                · exact .inr ⟨bytes, error, backup, holds, decoding, moved, nofun⟩
            · exact fun _ held => absurd (held.2 _ rfl) holds

theorem ends_loadOrDefault (surroundings : Surroundings) (source : IdentitySource) :
    Program.Ends (On fun entries => entries = start)
      (StateStore.loadOrDefault format host paths surroundings source)
      fun result => On (LoadLeft format paths start result) := by
  refine Program.Ends.bind (Q := fun _ => On fun entries => entries = start)
    (.mapError (ends_openEntropy.weaken (fun _ same => same) fun _ _ same => same))
    (fun _ => ends_loadWithIdentitySource surroundings source) fun error disk same => ?_
  exact .failed (same ▸ .refl start)

end

end Mult.Storage
