import Mult.Runtime.Operations

/-! When the client saves, and what its marks of unsaved changes say about what was saved last. -/

set_option autoImplicit false

namespace Mult
open Foundation Project App

namespace App

def quit (app : App) : App := { app with shouldQuit := true }

def cancelQuit (app : App) : App := { app with shouldQuit := false }

def markSaved (app : App) : App :=
  { app with dirty := false, structuralDirty := false, saveError := none }

def recordSaveFailure (app : App) (message : String) : App :=
  { app with saveError := some message }

end App

namespace Runtime

/-- Milliseconds between two saves of changes that are not structural. -/
def minContentSaveInterval : Nat := 1000

structure SaveSchedule where
  lastSave : Option Nat
  deriving DecidableEq, Repr

namespace SaveSchedule

def isDue (schedule : SaveSchedule) (now : Nat) : Bool :=
  schedule.lastSave.all fun last => minContentSaveInterval ≤ now - last

def record (_ : SaveSchedule) (now : Nat) : SaveSchedule := ⟨some now⟩

end SaveSchedule

/-- What saving does to the disk, and the text of its failure. -/
abbrev Saver (Disk : Type) := ProjectState → Disk → Except String Unit × Disk

variable {Disk : Type}

/-- Saves what is dirty; after a failure only where it is to be tried again. -/
def saveIfDirtyWith (app : App) (forceRetry : Bool) (saver : Saver Disk) (disk : Disk) :
    Bool × App × Disk :=
  if !app.dirty || !forceRetry && app.saveError.isSome then (false, app, disk)
  else
    match saver app.project disk with
    | (.ok (), disk) => (true, app.markSaved, disk)
    | (.error message, disk) => (true, (app.recordSaveFailure message).cancelQuit, disk)

def saveContentIfDue (app : App) (schedule : SaveSchedule) (now : Nat) (saver : Saver Disk)
    (disk : Disk) : Bool × App × SaveSchedule × Disk :=
  if !app.dirty || !app.structuralDirty && !schedule.isDue now then (false, app, schedule, disk)
  else
    let (saved, app, disk) := saveIfDirtyWith app false saver disk
    (saved, app, schedule.record now, disk)

def writing (outcome : Except String Unit) : Saver ProjectState := fun project saved =>
  match outcome with
  | .ok () => (.ok (), project)
  | .error message => (.error message, saved)

structure Session where
  app : App
  schedule : SaveSchedule
  /-- What was last saved without a failure, or else loaded. -/
  saved : ProjectState

inductive Activity where
  | operation (operation : Operation)
  | quit
  /-- The save of every tick of the event loop. -/
  | tick (now : Nat) (outcome : Except String Unit)
  /-- The save behind the input of a tick. -/
  | checkpoint (now : Nat) (outcome : Except String Unit)
  /-- The save in front of the launch of an agent, and the last one of a client that has to end. -/
  | forced (outcome : Except String Unit)

namespace Session

def perform (session : Session) : Activity → Session
  | .operation operation => { session with app := session.app.operate operation }
  | .quit => { session with app := session.app.quit }
  | .tick now outcome =>
      let (_, app, schedule, saved) :=
        saveContentIfDue session.app session.schedule now (writing outcome) session.saved
      ⟨app, schedule, saved⟩
  | .checkpoint now outcome =>
      let (_, app, saved) := saveIfDirtyWith session.app true (writing outcome) session.saved
      ⟨app, session.schedule.record now, saved⟩
  | .forced outcome =>
      let (_, app, saved) := saveIfDirtyWith session.app true (writing outcome) session.saved
      { session with app, saved }

end Session

/-- The client on any project that storage has loaded, and saved where loading changed it. -/
def sessions : Machine Session Activity Unit where
  start session := ∃ project : ProjectState, project.validateSessionIdentities = .ok () ∧
    session = ⟨App.new project, ⟨none⟩, project⟩
  step session activity := some (session.perform activity, [])

/-- What is not marked has been saved. -/
structure Session.Tracked (session : Session) : Prop where
  clean : session.app.dirty = false → session.saved = session.app.project
  flat : session.app.structuralDirty = false →
    structureOf session.saved = structureOf session.app.project
  within : session.app.structuralDirty = true → session.app.dirty = true

variable {session : Session} {app : App}

theorem Session.Tracked.marks (tracked : session.Tracked) (marks : Marks session.app app) :
    Session.Tracked { session with app } where
  clean saved :=
    have ⟨clean, same⟩ := marks.clean saved
    (tracked.clean clean).trans same.symm
  flat saved :=
    have ⟨flat, same⟩ := marks.flat saved
    (tracked.flat flat).trans same.symm
  within := marks.within tracked.within

theorem saveIfDirtyWith_cases (app : App) (forceRetry : Bool) (outcome : Except String Unit)
    (saved : ProjectState) :
    saveIfDirtyWith app forceRetry (writing outcome) saved = (false, app, saved) ∨
    saveIfDirtyWith app forceRetry (writing outcome) saved = (true, app.markSaved, app.project) ∧
      outcome = .ok () ∨
    ∃ message, outcome = .error message ∧ app.dirty = true ∧
      saveIfDirtyWith app forceRetry (writing outcome) saved =
        (true, (app.recordSaveFailure message).cancelQuit, saved) := by
  unfold saveIfDirtyWith
  split
  · exact .inl rfl
  · next tried =>
    cases outcome with
    | ok => exact .inr (.inl ⟨rfl, rfl⟩)
    | error message =>
      refine .inr (.inr ⟨message, rfl, ?_, rfl⟩)
      cases dirty : app.dirty with
      | true => rfl
      | false => simp [dirty] at tried

theorem Session.Tracked.save (tracked : session.Tracked) (forceRetry : Bool)
    (outcome : Except String Unit) (schedule : SaveSchedule) :
    let (_, app, saved) := saveIfDirtyWith session.app forceRetry (writing outcome) session.saved
    Session.Tracked ⟨app, schedule, saved⟩ := by
  rcases saveIfDirtyWith_cases session.app forceRetry outcome session.saved with
    same | ⟨same, -⟩ | ⟨message, -, -, same⟩
  · rw [same]
    exact ⟨tracked.clean, tracked.flat, tracked.within⟩
  · rw [same]
    exact ⟨fun _ => rfl, fun _ => rfl, nofun⟩
  · rw [same]
    exact ⟨tracked.clean, tracked.flat, tracked.within⟩

theorem Session.Tracked.perform (tracked : session.Tracked) (activity : Activity) :
    (session.perform activity).Tracked := by
  cases activity with
  | operation operation => exact tracked.marks (operate_settles session.app operation).marks
  | quit => exact ⟨tracked.clean, tracked.flat, tracked.within⟩
  | tick now outcome =>
    unfold Session.perform saveContentIfDue
    dsimp only
    split
    · exact tracked
    · exact tracked.save false outcome _
  | checkpoint now outcome => exact tracked.save true outcome _
  | forced outcome => exact tracked.save true outcome _

theorem normalizeAgentChatTitles_unchanged {project : ProjectState}
    (same : (normalizeAgentChatTitles project).1 = false) :
    (normalizeAgentChatTitles project).2 = project := by
  have titled : ∀ chat ∈ project.chats, chat.name = defaultAgentChatTitle := by
    simpa [normalizeAgentChatTitles] using same
  have chats : ∀ workspace ∈ project.workspaces,
      workspace.chats.map (fun chat => { chat with name := defaultAgentChatTitle }) =
        workspace.chats := by
    intro workspace listed
    conv_rhs => rw [← List.map_id workspace.chats]
    refine List.map_congr_left fun chat held => ?_
    rw [← titled chat (List.mem_flatMap.mpr ⟨workspace, listed, held⟩)]
    rfl
  have workspaces : project.workspaces.map (fun workspace => { workspace with
      chats := workspace.chats.map fun chat => { chat with name := defaultAgentChatTitle } }) =
        project.workspaces := by
    conv_rhs => rw [← List.map_id project.workspaces]
    refine List.map_congr_left fun workspace listed => ?_
    rw [chats workspace listed]
    rfl
  simp only [normalizeAgentChatTitles, workspaces]

/-- The client starts on what was loaded, with its titles put in order and marked where they
were not. -/
theorem Session.Tracked.start (project : ProjectState) :
    Session.Tracked ⟨App.new project, ⟨none⟩, project⟩ := by
  have titled : ∀ app : App, app.project = (normalizeAgentChatTitles project).2 →
      app.dirty = (normalizeAgentChatTitles project).1 → app.structuralDirty = false →
      Session.Tracked ⟨app, ⟨none⟩, project⟩ := by
    intro app same dirty flat
    constructor
    · intro clean
      rw [dirty] at clean
      exact (same.trans (normalizeAgentChatTitles_unchanged clean)).symm
    · intro _
      simp [same, structureOf, normalizeAgentChatTitles, ProjectState.sessionIds,
        Function.comp_def]
    · intro marked
      rw [flat] at marked
      cases marked
  exact (titled _ rfl rfl rfl).marks (reconciled_marks _ none)

theorem tracked_of_run {past : List Unit} (run : sessions.Reaches session past) :
    session.Tracked := by
  apply run.stateInvariant
  · rintro session ⟨project, -, rfl⟩
    exact .start project
  · intro session next events activity tracked stepped
    have same : session.perform activity = next := congrArg Prod.fst (Option.some.inj stepped)
    exact same ▸ tracked.perform activity

/-- Whatever is done and whichever saves fail: a client that is not dirty holds what was last
saved, a save that fails leaves it dirty and takes back the request to quit, and what differs
from what was saved in which sessions there are is marked as structural and saved at the next tick,
however short ago the last save was, unless a failed save is still to be retried. -/
theorem dirty_tracking_sound {past : List Unit} (run : sessions.Reaches session past) :
    (session.app.dirty = false → session.saved = session.app.project) ∧
    (∀ forceRetry message,
      let (attempted, app, saved) :=
        saveIfDirtyWith session.app forceRetry (writing (.error message)) session.saved
      attempted = true → app.dirty = true ∧ app.shouldQuit = false ∧
        app.project = session.app.project ∧ saved = session.saved) ∧
    (structureOf session.saved ≠ structureOf session.app.project →
      session.app.structuralDirty = true) ∧
    (session.app.structuralDirty = true → session.app.saveError = none →
      ∀ schedule now outcome,
        let (attempted, app, _, saved) :=
          saveContentIfDue session.app schedule now (writing outcome) session.saved
        attempted = true ∧
          (outcome = .ok () → app.dirty = false ∧ saved = session.app.project)) := by
  have tracked := tracked_of_run run
  refine ⟨tracked.clean, ?_, ?_, ?_⟩
  · intro forceRetry message
    rcases saveIfDirtyWith_cases session.app forceRetry (.error message) session.saved with
      same | ⟨-, other⟩ | ⟨text, -, dirty, same⟩
    · rw [same]
      exact nofun
    · cases other
    · rw [same]
      exact fun _ => ⟨dirty, rfl, rfl, rfl⟩
  · intro differs
    by_contra flat
    exact differs (tracked.flat (Bool.eq_false_iff.mpr flat))
  · intro marked clear schedule now outcome
    have dirty := tracked.within marked
    unfold saveContentIfDue saveIfDirtyWith
    simp only [marked, dirty, clear]
    cases outcome with
    | ok => exact ⟨rfl, fun _ => ⟨rfl, rfl⟩⟩
    | error message => exact ⟨rfl, nofun⟩

/-- A failed save, and after it a second import: the next tick waits until the failure is tried
again, and the one behind that saves at once. -/
def importAgain : List Activity :=
  [.operation (.action (.importWorkspacePath "/srv/a" "a" (.ok (countingSource 2)))),
    .checkpoint 5 (.error "disk full"), .tick 10 (.ok ()), .forced (.ok ()),
    .operation (.action (.importWorkspacePath "/srv/b" "b" (.ok (countingSource 9))))]

theorem dirty_tracking_sound_importAgain :
    ∃ session past, sessions.Reaches session past ∧ session.schedule.lastSave = some 10 ∧
      let (attempted, app, _, saved) :=
        saveContentIfDue session.app session.schedule 11 (writing (.ok ())) session.saved
      attempted = true ∧ app.dirty = false ∧ saved = session.app.project := by
  have valid : ProjectState.newProject.validateSessionIdentities = .ok () := by decide
  obtain ⟨session, past, reached, tested⟩ := sessions.exists_reaches ⟨_, valid, rfl⟩ importAgain
    (fun session _ => session.app.structuralDirty && session.app.saveError.isNone &&
      session.schedule.lastSave == some 10) (by decide)
  simp only [Bool.and_eq_true, Option.isNone_iff_eq_none, beq_iff_eq] at tested
  obtain ⟨⟨structural, clear⟩, last⟩ := tested
  obtain ⟨attempted, saves⟩ :=
    (dirty_tracking_sound reached).2.2.2 structural clear session.schedule 11 (.ok ())
  exact ⟨session, past, reached, last, attempted, saves rfl⟩

end Runtime

end Mult
