import Mult.Client.State
import Mult.Project.EditContract

/-! The keys of a project's sessions on the wire: each has a pane of its own, from which it is
read back.
-/

set_option autoImplicit false

namespace Mult.Client
open Foundation Protocol
open Project (PtyKey ChatId TerminalId ProjectState Edit Outcome IdentitySource
  runtimeTerminalIdFlag)

theorem lt_flag_of_valid {id : Nat} (valid : Project.isValidDurableSessionId id = true) :
    id < runtimeTerminalIdFlag := by
  have bounded : id ≤ Project.maxDurableSessionId := (of_decide_eq_true valid).2
  have positive : 0 < runtimeTerminalIdFlag := by decide
  unfold Project.maxDurableSessionId at bounded
  omega

theorem or_flag {id : Nat} (small : id < runtimeTerminalIdFlag) :
    id ||| runtimeTerminalIdFlag = runtimeTerminalIdFlag + id := by
  have joined := Nat.two_pow_add_eq_or_of_lt (i := 63) small 1
  rw [Nat.mul_one, Nat.or_comm] at joined
  exact joined.symm

theorem flag_set {id : Nat} (small : id < runtimeTerminalIdFlag) :
    (runtimeTerminalIdFlag + id) &&& runtimeTerminalIdFlag ≠ 0 := by
  have bit : (runtimeTerminalIdFlag + id).testBit 63 = true := by
    rw [runtimeTerminalIdFlag, Nat.testBit_two_pow_add_eq, Nat.testBit_lt_two_pow small]
    rfl
  intro zero
  have none := congrArg (Nat.testBit · 63) zero
  simp only [Nat.testBit_and, bit, Nat.zero_testBit, Bool.true_and] at none
  exact absurd none (by decide)

theorem flag_clear {id : Nat} (small : id < runtimeTerminalIdFlag) :
    id &&& runtimeTerminalIdFlag = 0 := by
  rw [runtimeTerminalIdFlag, Nat.and_two_pow, Nat.testBit_lt_two_pow small]
  rfl

theorem keyForPaneId_paneForKey {key : PtyKey} (durable : key.isDurable = true) :
    keyForPaneId (paneForKey key) = key := by
  cases key with
  | terminal terminal =>
    have small := lt_flag_of_valid durable
    simp only [paneForKey, wireId, keyForPaneId, flag_clear small, ne_eq, not_true, if_false]
  | chatAgent chat =>
    have small := lt_flag_of_valid durable
    simp only [paneForKey, wireId, keyForPaneId, or_flag small]
    rw [if_pos (flag_set small), Nat.add_mod_left, Nat.mod_eq_of_lt small]

/-- A project as load repair leaves one that was saved. No list is longer than there are words. -/
def LoadRepaired (state : ProjectState) : Prop :=
  ∃ (saved numbered : ProjectState) (idsChanged tablesChanged : Bool)
    (source left : IdentitySource), saved.workspaces.length ≤ Project.u64Max ∧
      saved.normalizeNextIds = .ok (numbered, idsChanged) ∧
      numbered.normalizeSessionIdentities source = .ok (state, tablesChanged, left)

def loadedEditing : Machine ProjectState Edit Outcome where
  start := LoadRepaired
  step state edit := some (state.edit edit)

theorem LoadRepaired.coherent {state : ProjectState} (loaded : LoadRepaired state) :
    state.Coherent := by
  obtain ⟨saved, numbered, idsChanged, tablesChanged, source, left, words, renumbered,
    normalized⟩ := loaded
  have held := ProjectState.addressable_of_ok words renumbered
  obtain ⟨repaired, changed, succeeded, -, settled⟩ := ProjectState.normalizeNextIds_spec held
  cases succeeded.symm.trans renumbered
  have reconciled := ProjectState.normalizeSessionIdentities_ok normalized
  exact ProjectState.valid_iff_coherent.mp (reconciled.valid settled)

theorem loaded_coherent {state : ProjectState} {past : List Outcome}
    (reached : loadedEditing.Reaches state past) : state.Coherent := by
  refine reached.stateInvariant (motive := ProjectState.Coherent) ?_ ?_
  · exact fun _ loaded => LoadRepaired.coherent loaded
  · intro state next events edit coherent stepped
    have same := congrArg Prod.fst (Option.some.inj stepped)
    have kept := (ProjectState.edit_careful state edit).1 coherent
    rwa [same] at kept

/-- However a loaded project is edited, its sessions have panes of their own on the wire, and each
is read back from its pane. -/
theorem wire_keys_agree {state : ProjectState} {past : List Outcome}
    (reached : loadedEditing.Reaches state past) :
    (∀ key ∈ state.keys, keyForPaneId (paneForKey key) = key) ∧
      ∀ first ∈ state.keys, ∀ second ∈ state.keys,
        paneForKey first = paneForKey second → first = second := by
  have durable := (loaded_coherent reached).durable
  refine ⟨fun key listed => keyForPaneId_paneForKey (durable key listed), ?_⟩
  intro first listed second listed' same
  rw [← keyForPaneId_paneForKey (durable first listed), same,
    keyForPaneId_paneForKey (durable second listed')]

def twoSessions : List Edit :=
  [.addWorkspace "first" none,
    .addChat ⟨1⟩ "agent" .idle .pi (.ok (Project.countingSource 2)),
    .addTerminal ⟨1⟩ "shell" (.ok (Project.countingSource 2))]

theorem newProject_loaded : LoadRepaired ProjectState.newProject := by
  have valid := ProjectState.validateSessionIdentities_ok_iff.mp
    (by decide : ProjectState.newProject.validateSessionIdentities = .ok ())
  have held : ProjectState.newProject.Addressable := ⟨by decide, by decide, by decide⟩
  have settled : ProjectState.newProject.Settled := by
    refine ⟨⟨by decide, by decide⟩, ⟨by decide, by decide⟩, ⟨by decide, by decide⟩, ?_⟩
    rfl
  exact ⟨_, _, false, false, Project.countingSource 2, _, held.workspaces,
    settled.normalizeNextIds held, valid.normalizeSessionIdentities _⟩

theorem wire_keys_agree_twoSessions : ∃ state past, loadedEditing.Reaches state past ∧
    state.keys = [.chatAgent ⟨1⟩, .terminal ⟨1⟩] ∧
    ∀ key ∈ state.keys, keyForPaneId (paneForKey key) = key := by
  obtain ⟨state, past, reached, tested⟩ := loadedEditing.exists_reaches newProject_loaded
    twoSessions (fun state _ => state.keys = [.chatAgent ⟨1⟩, .terminal ⟨1⟩]) (by decide)
  exact ⟨state, past, reached, by simpa using tested, (wire_keys_agree reached).1⟩

end Mult.Client
