import Mult.Foundation.ShellPlaces
import Mult.Foundation.Toml
import Mult.Runtime.ProcessAgentCommand

/-! The command a Codex chat runs: the configured command with options at the place its author
has kept for them. Each hook among the options is a shell command in a TOML string in a shell word.
-/

set_option autoImplicit false

namespace Mult.Runtime
open Foundation App

def codexArgsPlaceholder : String := "\x7bmult_codex_args\x7d"

def defaultCodexCommand : String := "codex " ++ codexArgsPlaceholder

def codexTitleConfig : String := "tui.terminal_title=[\"thread\",\"status\"]"

def codexStatusEvents : List (String × String) :=
  [("SessionStart", "idle"), ("UserPromptSubmit", "running"), ("PreToolUse", "running"),
    ("PermissionRequest", "waiting"), ("PostToolUse", "running"), ("Stop", "finished"),
    ("Interrupt", "idle")]

def hookTimeout (event : String) : Nat := if event = "Interrupt" then 3 else 5

def hookCommand (script status : String) : String :=
  "sh " ++ quoteArgument script ++ " " ++ status ++ "; printf '\x7b\x7d\\n'"

def hookOverride (json : Json.Writer) (script event status : String) : String :=
  "hooks." ++ event ++ "=[\x7bhooks=[\x7btype=\"command\",command=" ++
    String.ofList (json.write (hookCommand script status).toList) ++
    ",timeout=" ++ toString (hookTimeout event) ++ "\x7d]\x7d]"

def codexStatusArgs (json : Json.Writer) (script : String) : List String :=
  codexStatusEvents.flatMap fun (event, status) => ["-c", hookOverride json script event status]

/-- The options. The script is the one that could be written for a local chat. -/
def codexArgs (json : Json.Writer) (isLocal : Bool) (script : Option String) : List String :=
  ["-c", codexTitleConfig] ++
    if isLocal then (script.map (codexStatusArgs json)).getD [] else []

def configuredCodexCommand (configured : String) : String :=
  if Text.trim configured = "" then defaultCodexCommand else Text.trim configured

def codexCommand (json : Json.Writer) (configured : String) (isLocal : Bool)
    (script : Option String) : String :=
  let command := configuredCodexCommand configured
  if Text.contains command codexArgsPlaceholder then
    Text.replaceMark command codexArgsPlaceholder
      (" ".intercalate ((codexArgs json isLocal script).map quoteArgument))
  else command

theorem split_hookCommand (parameters : Shell.Parameters) (script : String) {status : String}
    (given : status.toList ≠ []) (ordinary : status.toList.all Shell.isOrdinary = true)
    (word : Shell.Lexer.isWord status.toList = true) :
    Shell.split parameters (hookCommand script status).toList =
      some [.word "sh".toList, .word script.toList, .word status.toList, .operator [';'],
        .word "printf".toList, .word "\x7b\x7d\\n".toList] := by
  let posix := Shell.Lexer.posix parameters
  have first : List.Forall₂ posix.Spells ["sh".toList, (quoteArgument script).toList, status.toList]
      ["sh".toList, script.toList, status.toList] :=
    .cons (posix.spells_ordinary (by decide) (by decide))
      (.cons (spells_quoteArgument posix script) (.cons (posix.spells_ordinary given ordinary) .nil))
  have second : List.Forall₂ posix.Spells ["printf".toList, "'\x7b\x7d\\n'".toList]
      ["printf".toList, "\x7b\x7d\\n".toList] :=
    .cons (posix.spells_ordinary (by decide) (by decide))
      (.cons (posix.spells_quoted "\x7b\x7d\\n".toList) .nil)
  have line : (hookCommand script status).toList =
      Shell.spaced ["sh".toList, (quoteArgument script).toList, status.toList] ++
        ';' :: ' ' :: Shell.spaced ["printf".toList, "'\x7b\x7d\\n'".toList] := by
    simp [hookCommand, Shell.spaced, List.intercalate, String.toList_append]
  have separator : ∀ tokens rest, posix.run (Shell.outside tokens none) (';' :: ' ' :: rest) =
      posix.run (Shell.outside (tokens ++ [.operator [';']]) none) rest := fun _ _ => rfl
  have before := @Shell.Lexer.run_words posix _ _ first (by simp) (by simpa using word)
    (';' :: ' ' :: Shell.spaced ["printf".toList, "'\x7b\x7d\\n'".toList]) rfl () []
  have after := @Shell.Lexer.run_words posix _ _ second (by simp) (by decide) [] rfl ()
    [.word "sh".toList, .word script.toList, .word status.toList, .operator [';']]
  rw [List.append_nil] at after
  change posix.run (Shell.outside [] none) (hookCommand script status).toList = _
  rw [line]
  exact before.trans ((separator _ _).trans after)

/-- The one command that is bound to an event. -/
def hookTable (command : List Char) (timeout : Nat) : Toml.Value :=
  .array [.table [("hooks".toList, .array [.table [("type".toList, .string "command".toList),
    ("command".toList, .string command), ("timeout".toList, .integer timeout)]])]]

/-- The value of the override, the command and the number as they are written. -/
def hookText (command timeout : List Char) : List Char :=
  let handler := '\x7b' :: (Toml.commas ["type".toList ++ '=' :: "\"command\"".toList,
    "command".toList ++ '=' :: command, "timeout".toList ++ '=' :: timeout] ++ ['\x7d'])
  let matcher := '\x7b' ::
    (Toml.commas ["hooks".toList ++ '=' :: '[' :: (Toml.commas [handler] ++ [']'])] ++ ['\x7d'])
  '[' :: (Toml.commas [matcher] ++ [']'])

theorem toList_hookOverride (json : Json.Writer) (script event status : String) :
    (hookOverride json script event status).toList =
      Toml.dotted ["hooks".toList, event.toList] ++ '=' ::
        hookText (json.write (hookCommand script status).toList)
          (toString (hookTimeout event)).toList := by
  simp [hookOverride, hookText, Toml.dotted, Toml.commas, List.intercalate, String.toList_append]

theorem hookText_element {fuel : Nat} {written command digits : List Char}
    (string : Toml.Element (Toml.readValue (fuel + 1)) written (.string command))
    (decimals : Toml.isDecimal digits = true) :
    Toml.Element (Toml.readValue (fuel + 5)) (hookText written digits)
      (hookTable command (Toml.decimal digits)) := by
  have kind : Toml.Element (Toml.readValue (fuel + 1)) "\"command\"".toList
      (.string "command".toList) :=
    Toml.Element.string .compact (show Toml.delete ∉ "command".toList by decide)
  have handler := Toml.Element.table
    (.cons (kind.entry (show "type".toList.all Toml.isBare = true by decide) (by decide))
      (.cons (string.entry (show "command".toList.all Toml.isBare = true by decide) (by decide))
        (.cons ((Toml.Element.number decimals).entry
          (show "timeout".toList.all Toml.isBare = true by decide) (by decide)) .nil)))
    (by simp) (show ["type".toList, "command".toList, "timeout".toList].Nodup by decide)
  have handlers := Toml.Element.array (.cons handler .nil) (by simp)
  have matcher := Toml.Element.table
    (.cons (handlers.entry (show "hooks".toList.all Toml.isBare = true by decide) (by decide)) .nil)
    (by simp) (by simp)
  exact Toml.Element.array (.cons matcher .nil) (by simp)

theorem hookText_refuses {fuel : Nat} {written digits : List Char}
    (visible : Toml.opens written = true)
    (refused : Toml.Refuses (Toml.readValue (fuel + 1)) written) :
    Toml.Refuses (Toml.readValue (fuel + 5)) (hookText written digits) := by
  have bare : "command".toList.all Toml.isBare = true := by decide
  have kind : Toml.Element (Toml.readValue (fuel + 1)) "\"command\"".toList
      (.string "command".toList) :=
    Toml.Element.string .compact (show Toml.delete ∉ "command".toList by decide)
  have handler := Toml.refuses_table
    (.cons (kind.entry (show "type".toList.all Toml.isBare = true by decide) (by decide)) .nil)
    (Toml.opens_key bare (by decide) _) (Toml.refuses_entry bare (by decide) visible refused)
    (',' :: ("timeout".toList ++ '=' :: digits ++ ['\x7d']))
  have handlers := Toml.refuses_array .nil rfl handler [']']
  have matcher := Toml.refuses_table .nil
    (Toml.opens_key (show "hooks".toList.all Toml.isBare = true by decide) (by decide) _)
    (Toml.refuses_entry (by decide) (by decide) rfl handlers) ['\x7d']
  have all := Toml.refuses_array .nil rfl matcher [']']
  simpa [hookText, Toml.commas, List.intercalate] using all

/-! ## From the configured command to the hooks -/

/-- An option of the command binds the event to the shell command that reports its status with
the script. -/
def HookReaches (json : Json.Writer) (script : String) (hook : String × String) : Prop :=
  ∃ value command, ["-c", value] <:+: codexArgs json true (some script) ∧
    Toml.readBinding value.toList =
      some (["hooks".toList, hook.1.toList], hookTable command (hookTimeout hook.1)) ∧
    ∀ parameters, Shell.split parameters command =
      some [.word "sh".toList, .word script.toList, .word hook.2.toList, .operator [';'],
        .word "printf".toList, .word "\x7b\x7d\\n".toList]

/-- The options as the words they are meant to be. -/
abbrev codexWords (json : Json.Writer) (script : String) : List Shell.Token :=
  ((codexArgs json true (some script)).map String.toList).map .word

theorem mem_quoteArgument {c : Char} (noQuote : c ≠ '\'') (noBackslash : c ≠ '\\')
    (value : String) : c ∈ (quoteArgument value).toList ↔ c ∈ value.toList := by
  have written : ∀ other, c ∈ Shell.quoteChar other ↔ c = other := by
    intro other
    unfold Shell.quoteChar
    split
    · next same => simp [same, noQuote, noBackslash]
    · simp
  rcases quoteArgument_cases value with ⟨-, -, same⟩ | same
  · rw [same]
  · rw [same, toList_singleQuote]
    simp [Shell.quoted, List.mem_flatMap, written, noQuote]

theorem delete_mem_hookCommand (script status : String) (kept : Toml.delete ∉ status.toList) :
    Toml.delete ∈ (hookCommand script status).toList ↔ Toml.delete ∈ script.toList := by
  have quoted := mem_quoteArgument (c := Toml.delete) (by decide) (by decide) script
  have before : Toml.delete ∉ "sh ".toList := by decide
  have blank : Toml.delete ∉ " ".toList := by decide
  have behind : Toml.delete ∉ "; printf '\x7b\x7d\\n'".toList := by decide
  simp only [hookCommand, String.toList_append, List.mem_append, quoted, before, blank, kept,
    behind, or_false, false_or]

theorem codexStatusEvents_plain : ∀ hook ∈ codexStatusEvents,
    (hook.1.toList.all Toml.isBare = true ∧ hook.1.toList ≠ []) ∧
    (hook.2.toList ≠ [] ∧ hook.2.toList.all Shell.isOrdinary = true) ∧
    Shell.Lexer.isWord hook.2.toList = true ∧ Toml.delete ∉ hook.2.toList := by
  decide

theorem hookTimeout_digits (event : String) :
    Toml.isDecimal (toString (hookTimeout event)).toList = true ∧
      Toml.decimal (toString (hookTimeout event)).toList = hookTimeout event := by
  unfold hookTimeout
  split <;> decide

theorem readBinding_hookOverride (json : Json.Writer) (script : String) {hook : String × String}
    (member : hook ∈ codexStatusEvents) :
    Toml.readBinding (hookOverride json script hook.1 hook.2).toList =
      if Toml.delete ∈ script.toList then none
      else some (["hooks".toList, hook.1.toList],
        hookTable (hookCommand script hook.2).toList (hookTimeout hook.1)) := by
  obtain ⟨event, status, -, kept⟩ := codexStatusEvents_plain hook member
  have bare : ∀ key ∈ ["hooks".toList, hook.1.toList], key.all Toml.isBare = true ∧ key ≠ [] := by
    intro key listed
    simp only [List.mem_cons, List.not_mem_nil, or_false] at listed
    rcases listed with rfl | rfl
    · decide
    · exact event
  have held := delete_mem_hookCommand script hook.2 kept
  obtain ⟨decimals, value⟩ := hookTimeout_digits hook.1
  rw [toList_hookOverride]
  obtain ⟨fuel, deep⟩ : ∃ fuel, (Toml.dotted ["hooks".toList, hook.1.toList] ++ '=' ::
      hookText (json.write (hookCommand script hook.2).toList)
        (toString (hookTimeout hook.1)).toList).length = fuel + 5 := by
    refine Nat.exists_eq_add_of_le' ?_
    rw [Toml.dotted_cons, List.append_assoc, List.length_append]
    exact Nat.le_add_right 5 _
  split
  · next refused =>
    refine Toml.readBinding_refuses (by simp) bare rfl ?_
    rw [deep]
    exact hookText_refuses rfl (Toml.refuses_string json (held.mpr refused))
  · next free =>
    refine Toml.readBinding_gives (by simp) bare ?_
    rw [deep]
    have string := @Toml.Element.string fuel json _ (mt held.mp free)
    have element := hookText_element string decimals
    rwa [value] at element

theorem readBinding_codexTitleConfig : Toml.readBinding codexTitleConfig.toList =
    some (["tui".toList, "terminal_title".toList],
      .array [.string "thread".toList, .string "status".toList]) := by
  have text : codexTitleConfig.toList =
      Toml.dotted ["tui".toList, "terminal_title".toList] ++ '=' ::
        '[' :: (Toml.commas ["\"thread\"".toList, "\"status\"".toList] ++ [']']) := by
    decide
  have bare : ∀ key ∈ ["tui".toList, "terminal_title".toList],
      key.all Toml.isBare = true ∧ key ≠ [] := by
    decide
  rw [text]
  refine Toml.readBinding_gives (by simp) bare (Toml.Element.array (.cons ?_ (.cons ?_ .nil)) (by simp))
  · exact Toml.Element.string .compact (show Toml.delete ∉ "thread".toList by decide)
  · exact Toml.Element.string .compact (show Toml.delete ∉ "status".toList by decide)

theorem codexArgs_cases {json : Json.Writer} {script arg : String}
    (member : arg ∈ codexArgs json true (some script)) :
    arg = "-c" ∨ arg = codexTitleConfig ∨
      ∃ hook ∈ codexStatusEvents, arg = hookOverride json script hook.1 hook.2 := by
  simp only [codexArgs, codexStatusArgs, if_true, Option.map_some, Option.getD_some,
    List.mem_append, List.mem_cons, List.not_mem_nil, or_false, List.mem_flatMap] at member
  rcases member with (same | same) | ⟨hook, listed, same | same⟩
  · exact .inl same
  · exact .inr (.inl same)
  · exact .inl same
  · exact .inr (.inr ⟨hook, listed, same⟩)

theorem override_infix (json : Json.Writer) (script : String) {hook : String × String}
    (member : hook ∈ codexStatusEvents) :
    ["-c", hookOverride json script hook.1 hook.2] <:+: codexArgs json true (some script) := by
  obtain ⟨before, behind, same⟩ := List.append_of_mem member
  refine ⟨["-c", codexTitleConfig] ++ before.flatMap fun (event, status) =>
      ["-c", hookOverride json script event status],
    behind.flatMap fun (event, status) => ["-c", hookOverride json script event status], ?_⟩
  simp [codexArgs, codexStatusArgs, same]

theorem hookReaches_iff (json : Json.Writer) (script : String) {hook : String × String}
    (member : hook ∈ codexStatusEvents) :
    HookReaches json script hook ↔ Toml.delete ∉ script.toList := by
  obtain ⟨-, ⟨given, ordinary⟩, word, -⟩ := codexStatusEvents_plain hook member
  constructor
  · rintro ⟨value, command, listed, bound, -⟩ held
    have arg : value ∈ codexArgs json true (some script) := listed.subset (by simp)
    rcases codexArgs_cases arg with rfl | rfl | ⟨other, otherMember, rfl⟩
    · cases bound
    · rw [readBinding_codexTitleConfig] at bound
      cases bound
    · rw [readBinding_hookOverride json script otherMember, if_pos held] at bound
      cases bound
  · intro kept
    refine ⟨hookOverride json script hook.1 hook.2, (hookCommand script hook.2).toList,
      override_infix json script member, ?_, fun parameters => ?_⟩
    · rw [readBinding_hookOverride json script member, if_neg kept]
    · exact split_hookCommand parameters script given ordinary word

theorem isWord_codexArgs {json : Json.Writer} {script arg : String}
    (member : arg ∈ codexArgs json true (some script)) :
    Shell.Lexer.isWord arg.toList = true := by
  rcases codexArgs_cases member with rfl | rfl | ⟨hook, -, rfl⟩
  · decide
  · decide
  · simp only [hookOverride, String.toList_append, Shell.Lexer.isWord, List.any_append]
    rfl

theorem quoteArgument_opens (value : String) :
    (quoteArgument value).toList.head?.any (fun c => c = '\'' || Shell.isOrdinary c) = true := by
  rcases quoteArgument_cases value with ⟨given, bare, same⟩ | same
  · rw [same]
    cases text : value.toList with
    | nil => exact absurd (String.toList_eq_nil_iff.mp text) given
    | cons c rest =>
      rw [text, List.all_cons, Bool.and_eq_true] at bare
      simp [isBareArgumentChar_isOrdinary bare.1]
  · rw [same, toList_singleQuote]
    rfl

theorem contains_of_stands {lexer : Shell.Lexer} {words : List Shell.Token} {state : lexer.State}
    {result : Option lexer.Result} {text mark : String}
    (stands : Shell.Lexer.Stands words state (Text.cutAt mark.toList 0 text.toList) result) :
    Text.contains text mark = true := by
  by_contra absent
  rw [Text.cutAt_absent (by simpa [Text.contains] using absent)] at stands
  cases stands

/-- For every way JSON strings may be written and every shell: where the placeholder of the
configured command stands as an unquoted word, the substituted command is read as the configured
one with the options in its place, and every event's hook reaches the shell command that it is
meant to, exactly if there is no delete character in the script's path. -/
theorem hooks_reach_iff (json : Json.Writer) (lexer : Shell.Lexer) {configured script : String}
    {start : lexer.State} {result : Option lexer.Result}
    (stands : Shell.Lexer.Stands (codexWords json script) start
      (Text.cutAt codexArgsPlaceholder.toList 0 (configuredCodexCommand configured).toList)
      result) :
    (lexer.run start (codexCommand json configured true (some script)).toList = result ∧
        ∀ hook ∈ codexStatusEvents, HookReaches json script hook) ↔
      Toml.delete ∉ script.toList := by
  let args := codexArgs json true (some script)
  have spells : List.Forall₂ lexer.Spells (args.map fun arg => (quoteArgument arg).toList)
      (args.map String.toList) := by
    rw [List.forall₂_map_left_iff, List.forall₂_map_right_iff]
    exact List.forall₂_same.mpr fun arg _ => spells_quoteArgument lexer arg
  have words : (args.map String.toList).getLast?.all Shell.Lexer.isWord = true := by
    rw [Option.all_eq_true]
    intro text last
    obtain ⟨arg, member, rfl⟩ := List.mem_map.mp (List.mem_of_getLast? last)
    exact isWord_codexArgs member
  have opens : (Shell.spaced (args.map fun arg => (quoteArgument arg).toList)).head?.any
      (fun c => c = '\'' || Shell.isOrdinary c) = true := by
    obtain ⟨second, further, same⟩ : ∃ second further,
        args.map (fun arg => (quoteArgument arg).toList) =
          (quoteArgument "-c").toList :: second :: further := ⟨_, _, rfl⟩
    have first := quoteArgument_opens "-c"
    rw [same, Shell.Lexer.spaced_cons]
    cases text : (quoteArgument "-c").toList with
    | nil => simp [text] at first
    | cons c rest => simpa [text] using first
  -- The options go in wherever the command has its placeholder.
  have replaced : (codexCommand json configured true (some script)).toList =
      (Shell.spaced (args.map fun arg => (quoteArgument arg).toList)).intercalate
        (Text.cutAt codexArgsPlaceholder.toList 0 (configuredCodexCommand configured).toList) := by
    rw [codexCommand, if_pos (contains_of_stands stands), Text.replaceMark, String.toList_ofList,
      String.toList_intercalate, List.map_map]
    rfl
  have read : lexer.run start (codexCommand json configured true (some script)).toList = result := by
    rw [replaced]
    exact stands.run spells (by simp [args, codexArgs]) words opens
  -- The words arrive in any case. Whether each hook does hangs on the script alone.
  rw [and_iff_right read]
  constructor
  · intro all
    have stop : ("Stop", "finished") ∈ codexStatusEvents := by decide
    exact (hookReaches_iff json script stop).mp (all _ stop)
  · exact fun kept hook member => (hookReaches_iff json script member).mpr kept

/-- Quotes and backslashes in the path, under the command that runs where none is configured. -/
theorem hooks_reach_awkward :
    (Shell.Lexer.posix (fun _ => none)).run .start
        (codexCommand .compact " " true (some "/run/status ' $literal \\\".sh")).toList =
      some (.word "codex".toList :: codexWords .compact "/run/status ' $literal \\\".sh") ∧
    ∀ hook ∈ codexStatusEvents, HookReaches .compact "/run/status ' $literal \\\".sh" hook := by
  have pieces : Text.cutAt codexArgsPlaceholder.toList 0 (configuredCodexCommand " ").toList =
      ["codex ".toList, []] := by
    decide
  have reads : (Shell.Lexer.posix fun _ => none).Reads Shell.Splitting.start "codex ".toList
      (Shell.outside [.word "codex".toList] none) :=
    show "codex ".toList.foldlM (Shell.feed fun _ => none) .start = some _ by decide
  have begins : @Shell.Lexer.Begins (.posix fun _ => none)
      (Shell.outside [.word "codex".toList] none) () [.word "codex".toList] := fun _ _ => rfl
  have stands := @Shell.Lexer.Stands.last (.posix fun _ => none)
    (codexWords .compact "/run/status ' $literal \\\".sh") _ _ _ _ _ [] reads begins rfl
  rw [← pieces] at stands
  exact (hooks_reach_iff .compact (.posix fun _ => none) stands).mpr (by decide)

/-- A delete character in the path stands in the TOML as it is. -/
theorem delete_in_path_lost :
    ¬∀ hook ∈ codexStatusEvents, HookReaches .compact "/run/user/\x7f/status.sh" hook := by
  intro all
  have stop : ("Stop", "finished") ∈ codexStatusEvents := by decide
  exact (hookReaches_iff .compact _ stop).mp (all _ stop) (by decide)

end Mult.Runtime
