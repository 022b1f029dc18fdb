import Mult.Foundation.ShellLists
import Mult.Remote.Quoting
import Mult.Client.Operations

/-! What a terminal of a remote workspace runs, and what the remote shell makes of the user's
command behind the `cd`.
-/

set_option autoImplicit false

namespace Mult.Remote
open Foundation Project
open Shell (Token Parameters Lexeme Grammar Script Ending split)
open Client (PtySpawn PtyDimensions)

def shellCommandArgs (command : String) : List String := ["-lc", command]

def shellSpawn (terminal : PtyKey) (cwd : Option String) (env : BTreeMap String String) :
    PtySpawn where
  terminal
  args := []
  cwd
  env := env.toList
  size := .initial

def commandLineSpawn (terminal : PtyKey) (command : String) (cwd : Option String)
    (env : BTreeMap String String) : PtySpawn where
  terminal
  args := shellCommandArgs command
  cwd
  env := env.toList
  size := .initial

/-- What a terminal runs, which is a question about its workspace too. -/
def terminalSpawn (key : PtyKey) (workspace : Workspace) (launch : TerminalLaunch) :
    Except RemoteError PtySpawn :=
  match workspace.remote with
  | none =>
    .ok (match launch with
      | .shell => shellSpawn key workspace.cwd workspace.environment
      | .command command => commandLineSpawn key command workspace.cwd workspace.environment)
  | some target =>
    let line := match launch with
      | .shell => loginShellCommand target
      | .command command => wrappedCommand target command
    line.map fun line => commandLineSpawn key line none workspace.environment

/-! ## The remote shell -/

/-- The shell that `ssh` hands its script to. -/
structure RemoteShell (T P S : Type) where
  parameters : Parameters
  lex : List Char → List (Lexeme T)
  word : List Char → T
  grammar : Grammar T P
  /-- What a pipeline does, and its status if the shell outlives it. -/
  run : P → S → S × Option Bool
  changeDirectory : List Char → P
  /-- The state in the directory, where the shell can change to it. -/
  enter : List Char → S → Option S

namespace RemoteShell

variable {T P S : Type}

/-- What a shell's documentation says about `cd` with one argument in front of `&&`; an argument that
begins with a dash is an option, or the directory before. -/
structure Documented (shell : RemoteShell T P S) : Prop where
  lex_change : ∀ front value rest,
    split shell.parameters front = some [.word "cd".toList, .word value, .operator "&&".toList] →
    shell.lex (front ++ ' ' :: rest) =
      .other (shell.word "cd".toList) :: .other (shell.word value) :: .and :: shell.lex rest
  pipeline_change : ∀ value rest,
    shell.grammar.pipeline
        (.other (shell.word "cd".toList) :: .other (shell.word value) :: .and :: rest) =
      some (shell.changeDirectory value, .and :: rest)
  run_change : ∀ value state, value.head? ≠ some '-' →
    shell.run (shell.changeDirectory value) state =
      match shell.enter value state with
      | none => (state, some false)
      | some there => (there, some true)

variable (shell : RemoteShell T P S)

def read (text : String) : Script P := shell.grammar.readScript (shell.lex text.toList)

def evaluate (state : S) (text : String) : List (P × S) × Ending :=
  Shell.runScript shell.run state (shell.read text)

/-- The script runs the command in the directory, just as the command alone runs there, and does
not run any of it elsewhere. -/
def Confined (directory : List Char) (script command : String) : Prop :=
  ∀ state,
    let (started, ending) := shell.evaluate state script
    match shell.enter directory state with
    | none => started <+: [(shell.changeDirectory directory, state)]
    | some there =>
      let (alone, last) := shell.evaluate there command
      ending = last ∧
        (started = (shell.changeDirectory directory, state) :: alone ∨ started = [] ∧ alone = [])

/-- The trimmed command is one list that `&&` joins, or cannot be read, and trimming it made no
difference; or it is a comment, and only the command as it stands cannot be read. -/
def Joinable (directory : List Char) (command : String) : Prop :=
  (shell.read (Text.trim command)).Conjunctive ∧
      (∀ state there, shell.enter directory state = some there →
        shell.evaluate there command = shell.evaluate there (Text.trim command)) ∨
    shell.read (Text.trim command) = ⟨[], true⟩ ∧
      ∀ state there, shell.enter directory state = some there →
        shell.evaluate there command = ([], .unreadable)

variable {shell}

theorem Documented.read_change (documented : shell.Documented) {front : List Char}
    {value : List Char} (command : String)
    (splits : split shell.parameters front =
      some [.word "cd".toList, .word value, .operator "&&".toList]) :
    shell.read (String.ofList (front ++ ' ' :: command.toList)) =
      (shell.read command).behind (shell.changeDirectory value) := by
  have opens : shell.grammar.Opens
      [.other (shell.word "cd".toList), .other (shell.word value)]
      (shell.changeDirectory value) :=
    ⟨documented.pipeline_change value, fun rest => rfl⟩
  have lexed := documented.lex_change front value command.toList splits
  rw [read, String.toList_ofList, lexed]
  exact Grammar.readScript_behind opens _

theorem evaluate_empty {text : String} {complete : Bool} (reads : shell.read text = ⟨[], complete⟩)
    (state : S) :
    shell.evaluate state text = ([], if complete then .status true else .unreadable) := by
  simp [evaluate, reads, Shell.runScript, Shell.runItems]

/-- What a script makes of the command that it holds behind the `cd`. -/
theorem Documented.confined_iff (documented : shell.Documented) {directory : List Char}
    {script command : String} (plain : directory.head? ≠ some '-')
    (reads : shell.read script =
      (shell.read (Text.trim command)).behind (shell.changeDirectory directory)) :
    (shell.Joinable directory command → shell.Confined directory script command) ∧
      ((∃ state, shell.enter directory state = none) →
        shell.Confined directory script command → shell.Joinable directory command) := by
  have change state := documented.run_change directory state plain
  generalize alone : shell.read (Text.trim command) = bare at reads
  obtain ⟨items, complete⟩ := bare
  cases items with
  | nil =>
    -- Nothing can be read behind the `cd`, so not even that runs.
    have nothing : ∀ state, shell.evaluate state script = ([], .unreadable) := by
      intro state
      rw [evaluate, reads]
      rfl
    have confined : shell.Confined directory script command ↔
        ∀ state there, shell.enter directory state = some there →
          shell.evaluate there command = ([], .unreadable) := by
      constructor
      · intro confined state there entered
        have runs := confined state
        rw [nothing, entered] at runs
        obtain ⟨ending, started | ⟨-, started⟩⟩ := runs
        · cases started
        · exact Prod.ext started ending.symm
      · intro unreadable state
        rw [nothing]
        cases entered : shell.enter directory state with
        | none => exact List.nil_prefix
        | some there =>
          dsimp only
          rw [unreadable state there entered]
          exact ⟨rfl, .inr ⟨rfl, rfl⟩⟩
    rw [confined, Joinable, alone]
    cases complete with
    | false =>
      have bare := evaluate_empty alone
      simp only [Bool.false_eq_true, if_false] at bare
      simp [Script.Conjunctive, bare]
    | true => simp [Script.Conjunctive]
  | cons item others =>
    have joinable : shell.Joinable directory command ↔
        (⟨item :: others, complete⟩ : Script P).Conjunctive ∧
          ∀ state there, shell.enter directory state = some there →
            shell.evaluate there command = shell.evaluate there (Text.trim command) := by
      simp [Joinable, alone]
    rw [joinable]
    constructor
    · rintro ⟨conjunctive, trims⟩ state
      have runs := change state
      cases entered : shell.enter directory state with
      | none =>
        rw [entered] at runs
        rw [evaluate, reads]
        exact (Shell.runScript_behind_failed runs item others complete).mpr conjunctive
      | some there =>
        rw [entered] at runs
        obtain rfl : others = [] := by
          cases others with
          | nil => rfl
          | cons => exact conjunctive.elim
        dsimp only
        rw [trims state there entered, evaluate, evaluate, reads, alone,
          Shell.runScript_behind_succeeded runs]
        exact ⟨rfl, .inl rfl⟩
    · rintro ⟨away, missing⟩ confined
      have conjunctive : (⟨item :: others, complete⟩ : Script P).Conjunctive := by
        have runs := change away
        have started := confined away
        rw [missing] at runs started
        rw [evaluate, reads] at started
        exact (Shell.runScript_behind_failed runs item others complete).mp started
      refine ⟨conjunctive, fun state there entered => ?_⟩
      obtain rfl : others = [] := by
        cases others with
        | nil => rfl
        | cons => exact conjunctive.elim
      have runs := change state
      have does := confined state
      rw [entered] at runs does
      rw [evaluate, reads, Shell.runScript_behind_succeeded runs] at does
      obtain ⟨ending, started | ⟨started, -⟩⟩ := does
      · have same := List.tail_eq_of_cons_eq started
        have bare : shell.evaluate there (Text.trim command) =
            Shell.runScript shell.run there ⟨[item], complete⟩ := by
          rw [evaluate, alone]
        rw [bare]
        exact Prod.ext same.symm ending.symm
      · cases started

end RemoteShell

def directoryPath (home : List Char) (path : String) : List Char :=
  match directoryWord home path with
  | .word text => text
  | .operator text => text

theorem directoryWord_eq (home : List Char) (path : String) :
    directoryWord home path = .word (directoryPath home path) := by
  unfold directoryPath directoryWord
  dsimp only
  split
  · rfl
  · split <;> rfl

theorem split_change {parameters : Parameters} {path directory : String}
    (token : remotePathToken path = .ok directory) :
    split parameters ("cd " ++ directory ++ " &&").toList =
      some [.word "cd".toList, .word (directoryPath (valueOf parameters "HOME") path),
        .operator "&&".toList] := by
  rw [← directoryWord_eq]
  apply split_line ["cd", directory, "&&"]
  · simp [Shell.spaced, List.intercalate]
  · refine .cons ?_ (.cons (piece_directory token) (.cons Shell.piece_and .nil))
    exact piece_ordinary (by decide) (by decide)

variable {T P S : Type} {shell : RemoteShell T P S}

/-- A command terminal of a workspace with a target that can be reached runs one `ssh` with one
script. If the command can stand behind the `cd`, the remote shell confines it to the directory,
and if the directory can be missing, only then. -/
theorem command_terminal_confined (documented : shell.Documented) {workspace : Workspace}
    {target : RemoteTarget} {destination : String} (remote : workspace.remote = some target)
    (accepted : checkDestination target.host = .ok destination)
    (somewhere : Text.trim target.path ≠ "")
    (plain : (directoryPath (valueOf shell.parameters "HOME") target.path).head? ≠ some '-')
    (key : PtyKey) (command : String) (here : Parameters) :
    let directory := directoryPath (valueOf shell.parameters "HOME") target.path
    ∃ spawn line script, terminalSpawn key workspace (.command command) = .ok spawn ∧
      spawn.args = ["-lc", line] ∧
      split here line.toList = some [word "ssh", word "-t", word destination, word script] ∧
      (shell.Joinable directory command → shell.Confined directory script command) ∧
      ((∃ state, shell.enter directory state = none) →
        shell.Confined directory script command → shell.Joinable directory command) := by
  intro directory
  obtain ⟨token, ok⟩ := remotePathToken_ok somewhere
  refine ⟨commandLineSpawn key _ none workspace.environment, _,
    "cd " ++ token ++ " && " ++ Text.trim command, ?_, rfl,
    split_sshCommand here destination _, documented.confined_iff plain ?_⟩
  · simp only [terminalSpawn, remote, wrappedCommand, accepted, ok]
    rfl
  · have reads := documented.read_change (Text.trim command) (split_change ok)
    have text : "cd " ++ token ++ " && " ++ Text.trim command =
        String.ofList (("cd " ++ token ++ " &&").toList ++ ' ' :: (Text.trim command).toList) := by
      apply String.toList_injective
      simp [String.toList_append]
    rw [text]
    exact reads

/-! ## A shell of words and operators

It knows no compound commands, no pipes and no expansions outside double quotes: where it meets
one it can read no further.
-/

namespace PlainShell

def lexeme : Token → Lexeme Token
  | .operator ['&', '&'] => .and
  | .operator ['|', '|'] => .or
  | .operator [';'] => .semicolon
  | .operator ['&'] => .ampersand
  | .operator ['\n'] => .newline
  | token => .other token

/-- The text as far as it can be split, and a token that no command has where it cannot. -/
def scan (parameters : Parameters) : Shell.Splitting → List Char → List (Lexeme Token)
  | splitting, [] =>
      match splitting.finish with
      | some tokens => tokens.map lexeme
      | none => splitting.tokens.map lexeme ++ [.other (.operator [])]
  | splitting, c :: rest =>
      match Shell.feed parameters splitting c with
      | some next => scan parameters next rest
      | none => splitting.tokens.map lexeme ++ [.other (.operator [])]

def lex (parameters : Parameters) (text : List Char) : List (Lexeme Token) :=
  scan parameters .start text

/-- The words of a simple command, and what stands behind them. -/
def wordsOf : List (Lexeme Token) → List (List Char) × List (Lexeme Token)
  | .other (.word text) :: rest => (text :: (wordsOf rest).1, (wordsOf rest).2)
  | script => ([], script)

theorem wordsOf_length (script : List (Lexeme Token)) :
    script.length = (wordsOf script).1.length + (wordsOf script).2.length := by
  fun_induction wordsOf script with
  | case1 text rest ih =>
    simp only [List.length_cons]
    omega
  | case2 => simp

def grammar : Grammar Token (List (List Char)) where
  pipeline script := if (wordsOf script).1 = [] then none else some (wordsOf script)
  shorter script found rest read := by
    split at read
    · cases read
    · next some_words =>
      have length := wordsOf_length script
      rw [Option.some.inj read] at length some_words
      have opened : 0 < found.length := List.length_pos_of_ne_nil some_words
      dsimp only at length
      omega

/-- Where the shell is, and which directories the machine has. -/
structure Place where
  directory : List Char
  directories : List (List Char)
  deriving DecidableEq, Repr

def enter (value : List Char) (place : Place) : Option Place :=
  if value ∈ place.directories then some { place with directory := value } else none

def run (words : List (List Char)) (place : Place) : Place × Option Bool :=
  match words with
  | [name, value] =>
      if name = "cd".toList then
        match enter value place with
        | none => (place, some false)
        | some there => (there, some true)
      else (place, some true)
  | _ => (place, some true)

end PlainShell

def plainShell (parameters : Parameters) :
    RemoteShell Token (List (List Char)) PlainShell.Place where
  parameters
  lex := PlainShell.lex parameters
  word := .word
  grammar := PlainShell.grammar
  run := PlainShell.run
  changeDirectory value := ["cd".toList, value]
  enter := PlainShell.enter

namespace PlainShell

def behind (tokens : List Token) (splitting : Shell.Splitting) : Shell.Splitting :=
  { splitting with tokens := tokens ++ splitting.tokens }

variable {parameters : Parameters} {tokens : List Token} {splitting : Shell.Splitting}

theorem behind_enter (mode : Shell.Mode) :
    (behind tokens splitting).enter mode = behind tokens (splitting.enter mode) := rfl

theorem behind_extend (text : List Char) :
    (behind tokens splitting).extend text = behind tokens (splitting.extend text) := rfl

theorem behind_emit (operator : List Char) :
    (behind tokens splitting).emit operator = behind tokens (splitting.emit operator) := by
  simp [behind, Shell.Splitting.emit]

theorem behind_close : (behind tokens splitting).close = behind tokens splitting.close := by
  obtain ⟨found, word, mode⟩ := splitting
  cases word <;> simp [Shell.Splitting.close, behind]

theorem feedPlain_behind (c : Char) :
    Shell.feedPlain (behind tokens splitting) c =
      (Shell.feedPlain splitting c).map (behind tokens) := by
  simp only [Shell.feedPlain, behind_close, behind_emit, behind_enter, behind_extend,
    apply_ite (Option.map (behind tokens)), Option.map_some, Option.map_none]

theorem feedDouble_behind (c : Char) :
    Shell.feedDouble (behind tokens splitting) c =
      (Shell.feedDouble splitting c).map (behind tokens) := by
  simp only [Shell.feedDouble, behind_enter, behind_extend,
    apply_ite (Option.map (behind tokens)), Option.map_some, Option.map_none]

theorem feed_behind (c : Char) :
    Shell.feed parameters (behind tokens splitting) c =
      (Shell.feed parameters splitting c).map (behind tokens) := by
  have same : (behind tokens splitting).mode = splitting.mode := rfl
  unfold Shell.feed
  rw [same]
  cases splitting.mode <;>
    simp only [behind_emit, behind_enter, behind_extend, feedPlain_behind, feedDouble_behind,
      apply_ite (Option.map (behind tokens)), Option.map_some, Option.map_none]

theorem finish_behind :
    (behind tokens splitting).finish = splitting.finish.map (tokens ++ ·) := by
  have same : (behind tokens splitting).mode = splitting.mode := rfl
  unfold Shell.Splitting.finish
  rw [same]
  cases splitting.mode <;> simp only [behind_close, behind_emit, Option.map_some, Option.map_none]
  all_goals rfl

theorem scan_behind (text : List Char) :
    scan parameters (behind tokens splitting) text =
      tokens.map lexeme ++ scan parameters splitting text := by
  have unread : (behind tokens splitting).tokens = tokens ++ splitting.tokens := rfl
  induction text generalizing splitting with
  | nil =>
    simp only [scan, finish_behind]
    cases splitting.finish <;> simp [behind]
  | cons c rest ih =>
    simp only [scan, feed_behind]
    cases Shell.feed parameters splitting c with
    | none => simp [behind]
    | some next => exact ih rfl

theorem scan_reads {before after : Shell.Splitting} {text : List Char} (rest : List Char)
    (reads : Shell.Reads parameters before text after) :
    scan parameters before (text ++ rest) = scan parameters after rest := by
  induction text generalizing before with
  | nil =>
    cases reads
    rfl
  | cons c others ih =>
    obtain ⟨next, fed, onward⟩ := Option.bind_eq_some_iff.mp reads
    rw [List.cons_append, scan, fed]
    exact ih onward

theorem feed_blank (tokens : List Token) {first second : Char}
    (finished : splitting.finish = some (tokens ++ [.operator [first, second]])) :
    Shell.feed parameters splitting ' ' =
      some (behind (tokens ++ [.operator [first, second]]) .start) := by
  obtain ⟨found, opened, mode⟩ := splitting
  cases mode with
  | plain =>
    have ends := Option.some.inj finished
    cases opened with
    | none =>
      subst ends
      simp [Shell.feed, Shell.feedPlain, Shell.Splitting.close, Shell.Splitting.start, behind]
    | some text =>
      have same := List.append_inj_right' ends rfl
      cases same
  | operator only =>
    have ends := List.append_inj_right' (Option.some.inj finished) rfl
    cases ends
  | _ => cases finished

theorem lex_change {front value rest : List Char}
    (splits : split parameters front =
      some [.word "cd".toList, .word value, .operator "&&".toList]) :
    lex parameters (front ++ ' ' :: rest) =
      .other (.word "cd".toList) :: .other (.word value) :: .and :: lex parameters rest := by
  obtain ⟨last, reads, finished⟩ := Option.bind_eq_some_iff.mp splits
  have blank : Shell.feed parameters last ' ' = some (behind _ .start) :=
    feed_blank [.word "cd".toList, .word value] finished
  rw [lex, scan_reads _ reads, scan, blank]
  exact scan_behind rest

theorem documented (parameters : Parameters) : (plainShell parameters).Documented where
  lex_change _ _ _ splits := lex_change splits
  pipeline_change _ _ := rfl
  run_change value place _ := by
    change run ["cd".toList, value] place = _
    have enters : (plainShell parameters).enter value place = enter value place := rfl
    rw [run, if_pos rfl, enters]
    cases enter value place <;> rfl

/-- The home of a user on a machine with these directories. -/
def home (directories : List (List Char)) : Place := ⟨"/home/tester".toList, directories⟩

end PlainShell

def remoteWorkspace : Workspace where
  id := ⟨1⟩
  name := "build"
  cwd := none
  remote := some ⟨"build-box", "/srv/build", "build"⟩
  environment := ∅
  chats := []
  terminals := []

/-- Two lists: on a machine without the directory the second one starts in the home. -/
theorem second_list_strays :
    ∃ spawn line script,
      terminalSpawn (.terminal ⟨1⟩) remoteWorkspace (.command "true; ls") = .ok spawn ∧
      spawn.args = ["-lc", line] ∧
      split testerParameters line.toList =
        some [word "ssh", word "-t", word "build-box", word script] ∧
      (plainShell testerParameters).evaluate (PlainShell.home []) script =
        ([(["cd".toList, "/srv/build".toList], PlainShell.home []),
          (["ls".toList], PlainShell.home [])], .status true) ∧
      ¬ (plainShell testerParameters).Confined "/srv/build".toList script "true; ls" := by
  have strays : (plainShell testerParameters).evaluate (PlainShell.home [])
      "cd '/srv/build' && true; ls" =
        ([(["cd".toList, "/srv/build".toList], PlainShell.home []),
          (["ls".toList], PlainShell.home [])], .status true) := by
    decide +kernel
  refine ⟨commandLineSpawn (.terminal ⟨1⟩) _ none ∅, _, "cd '/srv/build' && true; ls",
    ?_, rfl, split_sshCommand testerParameters "build-box" _, strays, fun confined => ?_⟩
  · decide
  · have missing : (plainShell testerParameters).enter "/srv/build".toList (PlainShell.home []) =
        none := by
      decide
    have started := confined (PlainShell.home [])
    rw [strays, missing] at started
    exact absurd started.length_le (by decide)

theorem command_terminal_confined_joined :
    ∃ spawn line script,
      terminalSpawn (.terminal ⟨1⟩) remoteWorkspace (.command "true && ls") = .ok spawn ∧
      spawn.args = ["-lc", line] ∧
      split testerParameters line.toList =
        some [word "ssh", word "-t", word "build-box", word script] ∧
      (plainShell testerParameters).Confined "/srv/build".toList script "true && ls" := by
  obtain ⟨spawn, line, script, starts, args, splits, confines, -⟩ :=
    command_terminal_confined (PlainShell.documented testerParameters)
      (rfl : remoteWorkspace.remote = some ⟨"build-box", "/srv/build", "build"⟩)
      (by decide : checkDestination "build-box" = .ok "build-box")
      (by decide) (by decide) (.terminal ⟨1⟩) "true && ls" testerParameters
  refine ⟨spawn, line, script, starts, args, splits, ?_⟩
  have trimmed : Text.trim "true && ls" = "true && ls" := by decide
  have reads : (plainShell testerParameters).read "true && ls" =
      ⟨[⟨⟨["true".toList], [(.and, ["ls".toList])]⟩, false⟩], true⟩ := by
    decide +kernel
  have path : directoryPath (valueOf testerParameters "HOME") "/srv/build" =
      "/srv/build".toList := by
    decide
  have confined := confines (.inl ⟨by rw [trimmed, reads]; simp [Script.Conjunctive],
    fun _ _ _ => by rw [trimmed]⟩)
  exact path ▸ confined

end Mult.Remote
