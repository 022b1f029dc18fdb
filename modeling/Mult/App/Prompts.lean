import Mult.App.Mutate

/-! The prompts: opening one, leaving it, and what submitting it adds. The texts that are being
typed are arguments of the submission.
-/

set_option autoImplicit false

namespace Mult
open Foundation Storage Project App

namespace App

/-- Opens the prompt over whatever is open, and keeps the focus to resume. -/
def setPrompt (app : App) (prompt : Prompt) : App :=
  { app with mode := .prompting prompt app.browseFocus }

def beginCommandPalette (app : App) : App := app.setPrompt .commandPalette

def beginOpenWorkspace (app : App) : App := app.setPrompt (.openWorkspace none)

def beginNewTerminalCommand (app : App) : Bool × App :=
  if app.selectedWorkspaceId.isNone then (false, app) else (true, app.setPrompt .newTerminalCommand)

def beginSearch (app : App) : Bool × App :=
  if app.selectedItem.isNone then (false, app) else (true, app.setPrompt .search)

def cancelPrompt (app : App) : App := app.clearPrompt

/-- The entry of the palette that was chosen is carried out on what this leaves. -/
def submitCommandPalette (app : App) : App :=
  match app.mode with
  | .prompting .commandPalette _ => app.clearPrompt
  | _ => app

def submitSearch (app : App) : App :=
  match app.mode with
  | .prompting .search _ => app.clearPrompt
  | _ => app

def commandTerminalName (command : String) (next : Nat) : String :=
  let command := Text.trim command
  if command = "" then "command-" ++ toString next else command

/-- Adds a terminal that runs what was typed. Where that fails the prompt stays, with the
reason, which nothing here reads. -/
def submitNewTerminalCommand (app : App) (input : String)
    (source : Except IoError IdentitySource) : App :=
  match app.mode with
  | .prompting .newTerminalCommand _ =>
    let command := Text.trim input
    if command = "" then app
    else
      match app.selectedWorkspaceId with
      | none => app
      | some workspace =>
        let next := (app.project.workspace workspace).elim 1 fun workspace =>
          workspace.terminals.length + 1
        let name := commandTerminalName command next
        match app.project.addCommandTerminal workspace name command source with
        | (.ok (some terminal), project) =>
          (({ app with project }.clearPrompt.selectItem
            (.terminal workspace terminal)).clearOperationError).markStructuralChange
        | (.ok none, project) => { app with project }
        | (.error _, project) => { app with project }
  | _ => app

def singleQuote (value : String) : String := "'" ++ Text.replace value '\'' "'\\''" ++ "'"

def isBareArgumentChar (c : Char) : Bool := c.isAlphanum || "/._-:+".toList.contains c

def quoteArgument (value : String) : String :=
  if value = "" then singleQuote value
  else if value.toList.all isBareArgumentChar then value
  else singleQuote value

def sftpTerminalName : String := "sftp"

def isYaziSftpCommand (command : String) : Bool :=
  (Text.stripStart command "yazi ").any fun target =>
    (Text.stripStart target "sftp://").isSome || (Text.stripStart target "'sftp://").isSome

def sftpTerminal (app : App) (workspace : WorkspaceId) : Option TerminalId :=
  (app.project.workspace workspace).bind fun workspace =>
    (workspace.terminals.find? fun terminal =>
      terminal.name = sftpTerminalName && match terminal.launch with
        | .command command => isYaziSftpCommand command
        | .shell => false).map TerminalSession.id

/-- Selects the terminal of the selected workspace that transfers files, adding it where there is
none and a target is configured. -/
def openSftpInSelectedWorkspace (app : App) (target : Option String)
    (source : Except IoError IdentitySource) : Option TerminalId × App :=
  match app.selectedWorkspaceId with
  | none => (none, app)
  | some workspace =>
    match app.sftpTerminal workspace with
    | some terminal =>
      (some terminal, (app.selectItem (.terminal workspace terminal)).clearOperationError)
    | none =>
      match (target.map Text.trim).filter fun target => target ≠ "" with
      | none =>
        (none, app.recordOperationFailure "no SFTP target is configured for this workspace")
      | some target =>
        let url := if (Text.stripStart target "sftp://").isSome then target
          else "sftp://" ++ target
        app.settleAddedTerminal workspace
          (app.project.addCommandTerminal workspace sftpTerminalName
            ("yazi " ++ quoteArgument url) source)

end App

end Mult
