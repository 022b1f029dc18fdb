import Mult.Foundation.Text
import Mult.Project.State

/-! Command lines for a workspace that lives on another machine: what the local shell runs is
`ssh`, and what `ssh` is given runs in the remote shell.
-/

set_option autoImplicit false

namespace Mult.Remote
open Foundation Project

inductive RemoteError where
  | emptyDestination
  | destinationLooksLikeAnOption (value : String)
  | destinationHasWhitespace (value : String)
  | destinationHasControlCharacter (value : String)
  | emptyPath
  | emptyCommand
  deriving DecidableEq, Repr

def checkDestination (destination : String) : Except RemoteError String :=
  let destination := Text.trim destination
  if destination = "" then .error .emptyDestination
  else if destination.toList.head? = some '-' then
    .error (.destinationLooksLikeAnOption destination)
  else if destination.toList.any Text.isWhitespace then
    .error (.destinationHasWhitespace destination)
  else if destination.toList.any Text.isControl then
    .error (.destinationHasControlCharacter destination)
  else .ok destination

/-- A character of a `tmux` session name. -/
def sessionChar (c : Char) : Char :=
  if c.isAlphanum ∨ c = '_' ∨ c = '-' then c else '-'

def sessionName (name : String) : String :=
  let sanitized := String.ofList ((Text.trim name).toList.map sessionChar)
  let trimmed := Text.trimMatches (fun c => c = '-') sanitized
  if trimmed = "" then "mult" else trimmed

def quoteForLocalShell (value : String) : String :=
  "'" ++ Text.replace value '\'' "'\\''" ++ "'"

def quoteForRemoteShell (value : String) : String :=
  "'" ++ Text.replace value '\'' "'\\''" ++ "'"

def escapeForDoubleQuotes (value : String) : String :=
  String.ofList (value.toList.flatMap fun c =>
    if c = '"' ∨ c = '\\' ∨ c = '$' ∨ c = '`' then ['\\', c] else [c])

/-- The project directory as the remote shell should read it. -/
def remotePathToken (path : String) : Except RemoteError String :=
  let path := Text.trim path
  if path = "" then .error .emptyPath
  else if path = "~" then .ok "\"$HOME\""
  else match Text.stripStart path "~/" with
    | some rest => .ok ("\"$HOME/" ++ escapeForDoubleQuotes rest ++ "\"")
    | none => .ok (quoteForRemoteShell path)

def sshCommand (destination remote : String) : String :=
  "ssh -t " ++ quoteForLocalShell destination ++ " " ++ quoteForLocalShell remote

/-- What `tmux` reports as the pane's title: nothing while it is still the host's name. -/
def agentTitleFormat : String := "#\x7b?#\x7b==:#T,#\x7bhost\x7d\x7d,,#T\x7d"

def tmuxAgentCommand (target : RemoteTarget) (command : String) : Except RemoteError String :=
  match checkDestination target.host with
  | .error error => .error error
  | .ok destination =>
    match remotePathToken target.path with
    | .error error => .error error
    | .ok directory =>
      let session := quoteForRemoteShell target.session
      let command := Text.trim command
      if command = "" then .error .emptyCommand
      else
        let command := quoteForRemoteShell command
        let title := quoteForRemoteShell agentTitleFormat
        let remote := " ".intercalate [
          "tmux new-session -A -d -s " ++ session ++ " -c " ++ directory ++ " " ++ command,
          "';' set-option -t " ++ session ++ " set-titles on",
          "';' set-option -t " ++ session ++ " set-titles-string " ++ title,
          "';' attach-session -t " ++ session]
        .ok (sshCommand destination remote)

def loginShellCommand (target : RemoteTarget) : Except RemoteError String :=
  match checkDestination target.host with
  | .error error => .error error
  | .ok destination =>
    match remotePathToken target.path with
    | .error error => .error error
    | .ok directory =>
      .ok (sshCommand destination ("cd " ++ directory ++ " && exec \"$SHELL\" -l"))

/-- The user's own command, which the remote shell evaluates. -/
def wrappedCommand (target : RemoteTarget) (command : String) : Except RemoteError String :=
  match checkDestination target.host with
  | .error error => .error error
  | .ok destination =>
    match remotePathToken target.path with
    | .error error => .error error
    | .ok directory =>
      .ok (sshCommand destination ("cd " ++ directory ++ " && " ++ Text.trim command))

end Mult.Remote
