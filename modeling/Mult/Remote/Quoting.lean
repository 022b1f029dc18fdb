import Mult.Foundation.FishWords
import Mult.Remote.Commands

/-! Both shells split the command lines for a remote workspace into the words they were
built from.
-/

set_option autoImplicit false

namespace Mult.Remote
open Foundation Project
open Shell (Token Parameters Spells Piece split)

/-- A word with the text. -/
def word (text : String) : Token := .word text.toList

/-- The directory a remote path names where the home directory is the given one. -/
def directoryWord (home : List Char) (path : String) : Token :=
  let path := Text.trim path
  if path = "~" then .word home
  else match Text.stripStart path "~/" with
    | some rest => .word (home ++ '/' :: rest.toList)
    | none => word path

def valueOf (parameters : Parameters) (name : String) : List Char :=
  (parameters name.toList).getD []

theorem toList_quoteForLocalShell (value : String) :
    (quoteForLocalShell value).toList = Shell.quoted value.toList := by
  simp only [quoteForLocalShell, Text.replace, String.toList_append, String.toList_ofList,
    Shell.quoted]
  rfl

theorem toList_quoteForRemoteShell (value : String) :
    (quoteForRemoteShell value).toList = Shell.quoted value.toList :=
  toList_quoteForLocalShell value

theorem toList_escapeForDoubleQuotes (value : String) :
    (escapeForDoubleQuotes value).toList = value.toList.flatMap Shell.escapeChar := by
  rw [escapeForDoubleQuotes, String.toList_ofList]
  rfl

variable {parameters : Parameters}

theorem piece_quoted (value : String) :
    Piece parameters (quoteForRemoteShell value).toList (word value) := by
  rw [toList_quoteForRemoteShell]
  exact (Shell.spells_quoted value.toList).piece

theorem piece_ordinary {text : String} (opened : text.toList ≠ [])
    (ordinary : text.toList.all Shell.isOrdinary = true) : Piece parameters text.toList (word text) :=
  (Shell.spells_ordinary opened ordinary).piece

theorem spells_home (tail tailValue : List Char)
    (apart : ∀ c, (tail ++ ['"']).head? = some c → Shell.isNameRest c = false)
    (reads : ∀ tokens held, Shell.Reads parameters ⟨tokens, some held, .double⟩ tail
      ⟨tokens, some (held ++ tailValue), .double⟩) :
    Spells parameters ("\"$HOME".toList ++ (tail ++ ['"'])) (valueOf parameters "HOME" ++ tailValue) :=
  Shell.spells_parameter "OME".toList tail tailValue (by decide) (by decide) apart reads

theorem piece_directory {path directory : String}
    (token : remotePathToken path = .ok directory) :
    Piece parameters directory.toList (directoryWord (valueOf parameters "HOME") path) := by
  unfold remotePathToken at token
  unfold directoryWord
  dsimp only at token ⊢
  split at token
  · cases token
  split at token
  · next home =>
    cases token
    rw [if_pos home]
    have spells : Spells parameters "\"$HOME\"".toList (valueOf parameters "HOME" ++ []) :=
      spells_home [] [] (fun c same => by cases same; decide)
        (fun tokens held => by simpa using Shell.Reads.nil)
    rw [List.append_nil] at spells
    exact spells.piece
  next elsewhere =>
  rw [if_neg elsewhere]
  cases below : Text.stripStart (Text.trim path) "~/" with
  | some rest =>
    rw [below] at token
    cases token
    -- Below the home directory: the parameter, and the rest escaped, in one pair of quotes.
    have spells : Spells parameters _ _ := spells_home
      ('/' :: rest.toList.flatMap Shell.escapeChar) ('/' :: rest.toList)
      (fun c same => by cases same; decide)
      (fun tokens held => by
        refine Shell.Reads.cons ⟨tokens, some (held ++ ['/']), .double⟩ ?_ ?_
        · simp [Shell.feed, Shell.feedDouble, Shell.Splitting.enter, Shell.Splitting.extend]
        · simpa using Shell.reads_escaped rest.toList (held ++ ['/']))
    have text : ("\"$HOME/" ++ escapeForDoubleQuotes rest ++ "\"").toList =
        "\"$HOME".toList ++ (('/' :: rest.toList.flatMap Shell.escapeChar) ++ ['"']) := by
      simp [String.toList_append, toList_escapeForDoubleQuotes]
    rw [text]
    exact spells.piece
  | none =>
    rw [below] at token
    cases token
    exact piece_quoted (Text.trim path)

theorem remotePathToken_ok {path : String} (somewhere : Text.trim path ≠ "") :
    ∃ directory, remotePathToken path = .ok directory := by
  unfold remotePathToken
  dsimp only
  rw [if_neg somewhere]
  split
  · exact ⟨_, rfl⟩
  · split <;> exact ⟨_, rfl⟩

/-- A POSIX shell reads the form as the value whatever the value is. `fish` does exactly where no
backslash in it stands in front of a backslash, a quote or the end. -/
theorem literal_in_both_iff (parameters : Parameters) (unquoted : Shell.Unquoted) (value : String) :
    (split parameters (quoteForRemoteShell value).toList = some [word value] ∧
        Shell.fishWord unquoted false (quoteForRemoteShell value).toList = some value.toList) ↔
      Shell.backslashesApart value.toList = true := by
  have posix : split parameters (quoteForRemoteShell value).toList = some [word value] := by
    have alone := Shell.split_spaced (.cons (@piece_quoted parameters value) .nil)
    simpa [Shell.spaced, List.intercalate] using alone
  rw [and_iff_right posix, toList_quoteForRemoteShell]
  exact Shell.fishWord_quoted value.toList

/-- Of two backslashes `fish` reads one, and one at the end leaves the quote open. -/
theorem backslash_lost_under_fish :
    Shell.fishWord (fun _ => none) false (quoteForRemoteShell "a\\\\b").toList =
        some "a\\b".toList ∧
      "a\\b".toList ≠ "a\\\\b".toList ∧
      Shell.fishWord (fun _ => none) false (quoteForRemoteShell "C:\\").toList = none := by
  simp only [toList_quoteForRemoteShell]
  exact ⟨rfl, by decide, rfl⟩

theorem split_line {line : String} (texts : List String) {read : List Token}
    (same : line.toList = Shell.spaced (texts.map String.toList))
    (pieces : List.Forall₂ (fun text token => Piece parameters text.toList token) texts read) :
    split parameters line.toList = some read := by
  rw [same]
  exact Shell.split_spaced (List.forall₂_map_left_iff.mpr pieces)

/-- What the local shell hands to `ssh`. -/
theorem split_sshCommand (parameters : Parameters) (destination remote : String) :
    split parameters (sshCommand destination remote).toList =
      some [word "ssh", word "-t", word destination, word remote] := by
  have quoted : ∀ value, Piece parameters (quoteForLocalShell value).toList (word value) := by
    intro value
    rw [toList_quoteForLocalShell]
    exact (Shell.spells_quoted value.toList).piece
  apply split_line ["ssh", "-t", quoteForLocalShell destination, quoteForLocalShell remote]
  · simp [sshCommand, Shell.spaced, List.intercalate]
  · refine .cons ?_ (.cons ?_ (.cons (quoted destination) (.cons (quoted remote) .nil)))
    · exact piece_ordinary (by decide) (by decide)
    · exact piece_ordinary (by decide) (by decide)

/-- The script that puts the project's `tmux` session on screen. -/
def tmuxWords (home : List Char) (target : RemoteTarget) (command : String) : List Token :=
  [word "tmux", word "new-session", word "-A", word "-d", word "-s", word target.session,
    word "-c", directoryWord home target.path, word (Text.trim command),
    word ";", word "set-option", word "-t", word target.session, word "set-titles", word "on",
    word ";", word "set-option", word "-t", word target.session, word "set-titles-string",
    word agentTitleFormat,
    word ";", word "attach-session", word "-t", word target.session]

def loginShellWords (home shell : List Char) (target : RemoteTarget) : List Token :=
  [word "cd", directoryWord home target.path, .operator "&&".toList, word "exec", .word shell,
    word "-l"]

theorem piece_separator : Piece parameters "';'".toList (word ";") :=
  (Shell.spells_quoted [';']).piece

theorem split_tmux {target : RemoteTarget} {command directory : String}
    (token : remotePathToken target.path = .ok directory) :
    split parameters (" ".intercalate [
        "tmux new-session -A -d -s " ++ quoteForRemoteShell target.session ++ " -c " ++ directory ++
          " " ++ quoteForRemoteShell (Text.trim command),
        "';' set-option -t " ++ quoteForRemoteShell target.session ++ " set-titles on",
        "';' set-option -t " ++ quoteForRemoteShell target.session ++ " set-titles-string " ++
          quoteForRemoteShell agentTitleFormat,
        "';' attach-session -t " ++ quoteForRemoteShell target.session]).toList =
      some (tmuxWords (valueOf parameters "HOME") target command) := by
  have session : Piece parameters _ _ := piece_quoted target.session
  have common : ∀ text : String, text.toList ≠ [] → text.toList.all Shell.isOrdinary = true →
      Piece parameters text.toList (word text) := fun text => piece_ordinary
  apply split_line ["tmux", "new-session", "-A", "-d", "-s",
    quoteForRemoteShell target.session, "-c", directory, quoteForRemoteShell (Text.trim command),
    "';'", "set-option", "-t", quoteForRemoteShell target.session, "set-titles", "on",
    "';'", "set-option", "-t", quoteForRemoteShell target.session, "set-titles-string",
    quoteForRemoteShell agentTitleFormat,
    "';'", "attach-session", "-t", quoteForRemoteShell target.session]
  · simp [Shell.spaced, List.intercalate]
  · refine .cons ?_ (.cons ?_ (.cons ?_ (.cons ?_ (.cons ?_ (.cons session (.cons ?_
      (.cons (piece_directory token) (.cons (piece_quoted (Text.trim command))
      (.cons piece_separator (.cons ?_ (.cons ?_ (.cons session (.cons ?_ (.cons ?_
      (.cons piece_separator (.cons ?_ (.cons ?_ (.cons session (.cons ?_
      (.cons (piece_quoted agentTitleFormat)
      (.cons piece_separator (.cons ?_ (.cons ?_ (.cons session .nil))))))))))))))))))))))))
    all_goals exact common _ (by decide) (by decide)

theorem split_loginShell {target : RemoteTarget} {directory : String}
    (token : remotePathToken target.path = .ok directory) :
    split parameters ("cd " ++ directory ++ " && exec \"$SHELL\" -l").toList =
      some (loginShellWords (valueOf parameters "HOME") (valueOf parameters "SHELL") target) := by
  have shell : Spells parameters "\"$SHELL\"".toList (valueOf parameters "SHELL" ++ []) :=
    Shell.spells_parameter "HELL".toList [] [] (by decide) (by decide)
      (fun c same => by cases same; decide) (fun tokens held => by simpa using Shell.Reads.nil)
  rw [List.append_nil] at shell
  apply split_line ["cd", directory, "&&", "exec", "\"$SHELL\"", "-l"]
  · simp [Shell.spaced, List.intercalate]
  · refine .cons ?_ (.cons (piece_directory token) (.cons Shell.piece_and (.cons ?_
      (.cons shell.piece (.cons ?_ .nil)))))
    all_goals exact piece_ordinary (by decide) (by decide)

/-- For every target with a destination `ssh` can take and a directory, and whatever either shell's
parameters are: the local shell runs `ssh` with the destination and one script, and the remote
shell reads the script as the words it was built from. -/
theorem lines_split {target : RemoteTarget} {destination : String}
    (accepted : checkDestination target.host = .ok destination)
    (somewhere : Text.trim target.path ≠ "") (here there : Parameters) :
    (∀ command, Text.trim command ≠ "" → ∃ line script,
      tmuxAgentCommand target command = .ok line ∧
      split here line.toList = some [word "ssh", word "-t", word destination, word script] ∧
      split there script.toList = some (tmuxWords (valueOf there "HOME") target command)) ∧
    ∃ line script, loginShellCommand target = .ok line ∧
      split here line.toList = some [word "ssh", word "-t", word destination, word script] ∧
      split there script.toList =
        some (loginShellWords (valueOf there "HOME") (valueOf there "SHELL") target) := by
  obtain ⟨directory, token⟩ := remotePathToken_ok somewhere
  constructor
  · intro command given
    refine ⟨_, _, ?_, split_sshCommand here destination _, split_tmux token⟩
    simp only [tmuxAgentCommand, accepted, token, if_neg given]
  · refine ⟨_, _, ?_, split_sshCommand here destination _, split_loginShell token⟩
    simp only [loginShellCommand, accepted, token]

/-- Quotes, dollars and backslashes everywhere. -/
def awkwardTarget : RemoteTarget where
  host := " us'er@host "
  path := "~/it's \"$HOME\" `x` \\"
  session := "a b'c;d"

def testerParameters : Parameters := fun name =>
  if name = "HOME".toList then some "/home/tester".toList
  else if name = "SHELL".toList then some "/bin/sh".toList else none

theorem lines_split_awkward :
    (∃ line script, tmuxAgentCommand awkwardTarget " claude 'x' " = .ok line ∧
      split testerParameters line.toList =
        some [word "ssh", word "-t", word "us'er@host", word script] ∧
      split testerParameters script.toList =
        some (tmuxWords "/home/tester".toList awkwardTarget " claude 'x' ")) ∧
    ∃ line script, loginShellCommand awkwardTarget = .ok line ∧
      split testerParameters line.toList =
        some [word "ssh", word "-t", word "us'er@host", word script] ∧
      split testerParameters script.toList =
        some (loginShellWords "/home/tester".toList "/bin/sh".toList awkwardTarget) := by
  have accepted : checkDestination awkwardTarget.host = .ok "us'er@host" := by decide
  obtain ⟨tmux, shell⟩ :=
    lines_split accepted (by decide) testerParameters testerParameters
  exact ⟨tmux _ (by decide), shell⟩

end Mult.Remote
