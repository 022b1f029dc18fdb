import Mult.App.Mutate

/-! Importing the workspace the open-workspace prompt names. -/

set_option autoImplicit false

namespace Mult
open Foundation Storage Project App

namespace App

def setOpenWorkspaceError (app : App) (error : OpenWorkspaceError) : App :=
  match app.mode with
  | .prompting (.openWorkspace _) resume =>
    { app with mode := .prompting (.openWorkspace (some error)) resume }
  | _ => app

/-- Allocates the workspace with the terminal it opens on, and selects it. Both allocations are
staged, so that a failure of the second leaves no workspace. -/
def insertWorkspace (app : App) (name : String) (cwd : Option PathBuf)
    (remote : Option RemoteTarget) (source : Except IoError IdentitySource) : App :=
  let added := match remote with
    | some target => app.project.addRemoteWorkspace name target
    | none => app.project.addWorkspace name cwd
  match added with
  | (.error error, _) => app.setOpenWorkspaceError (.allocation error)
  | (.ok workspace, project) =>
    match project.addTerminal workspace "shell" source with
    | (.ok (some _), project) =>
      (({ app with project }.clearPrompt.selectFirstItemInWorkspace
        workspace).clearOperationError).markStructuralChange
    | (.ok none, _) =>
      app.setOpenWorkspaceError (.message "new workspace disappeared during import")
    | (.error error, _) => app.setOpenWorkspaceError (.allocation error)

/-- The import of a local path once the file system has resolved it to a directory; the name is
the configured one or else the directory's own. -/
def importWorkspacePath (app : App) (cwd : PathBuf) (name : String)
    (source : Except IoError IdentitySource) : App :=
  match app.project.workspaces.find? fun workspace => workspace.cwd = some cwd with
  | some existing => app.clearPrompt.selectFirstItemInWorkspace existing.id
  | none => app.insertWorkspace name (some cwd) none source

def lastPathPart (path : String) : String :=
  (((path.splitToList (· = '/')).reverse.find? fun part => part ≠ "").getD path)

def importRemoteWorkspace (app : App) (name host path : String)
    (source : Except IoError IdentitySource) : App :=
  match Remote.checkDestination host with
  | .error error => app.setOpenWorkspaceError (.remote error)
  | .ok host =>
    let path := Text.trim path
    if path = "" then app.setOpenWorkspaceError (.remote .emptyPath)
    else
      match app.project.workspaces.find? fun workspace =>
          workspace.remote.any fun target => target.host = host && target.path = path with
      | some existing => app.clearPrompt.selectFirstItemInWorkspace existing.id
      | none =>
        let name := if Text.trim name = "" then lastPathPart path else Text.trim name
        app.insertWorkspace name none
          (some ⟨host, path, Remote.sessionName name⟩) source

end App

end Mult
