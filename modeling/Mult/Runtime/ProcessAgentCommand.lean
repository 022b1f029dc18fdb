import Mult.App.Prompts
import Mult.Foundation.ShellWords

/-! The program's own splitter of command lines, and quoted arguments under it and under a
POSIX shell.
-/

set_option autoImplicit false

namespace Mult.Runtime
open Foundation App

inductive Quote where
  | unquoted
  | single
  | double
  deriving DecidableEq, Repr

/-- The arguments that are complete, and what is open. -/
structure CommandSplitting where
  args : List String
  current : List Char
  quote : Quote
  escaping : Bool
  inToken : Bool
  deriving DecidableEq, Repr

namespace CommandSplitting

def start : CommandSplitting := ⟨[], [], .unquoted, false, false⟩

def push (splitting : CommandSplitting) (c : Char) : CommandSplitting :=
  { splitting with current := splitting.current ++ [c] }

def escape (splitting : CommandSplitting) : CommandSplitting :=
  { splitting with escaping := true, inToken := true }

/-- Completes the argument that is open, if one is. -/
def close (splitting : CommandSplitting) : CommandSplitting :=
  if splitting.inToken then
    { splitting with
      args := splitting.args ++ [String.ofList splitting.current]
      current := []
      inToken := false }
  else splitting

def feed (splitting : CommandSplitting) (c : Char) : CommandSplitting :=
  if splitting.escaping then { splitting.push c with escaping := false, inToken := true }
  else
    match splitting.quote with
    | .unquoted =>
        if c = '\\' then splitting.escape
        else if c = '\'' then { splitting with quote := .single, inToken := true }
        else if c = '"' then { splitting with quote := .double, inToken := true }
        else if Text.isWhitespace c then splitting.close
        else { splitting.push c with inToken := true }
    | .single =>
        if c = '\'' then { splitting with quote := .unquoted } else splitting.push c
    | .double =>
        if c = '"' then { splitting with quote := .unquoted }
        else if c = '\\' then splitting.escape
        else splitting.push c

def finish (splitting : CommandSplitting) : Except String (List String) :=
  let splitting := if splitting.escaping then splitting.push '\\' else splitting
  if splitting.quote ≠ .unquoted then .error "unterminated quote"
  else .ok splitting.close.args

end CommandSplitting

def splitProcessAgentCommand (raw : String) : Except String (List String) :=
  (raw.toList.foldl CommandSplitting.feed .start).finish

abbrev between (args : List String) : CommandSplitting := ⟨args, [], .unquoted, false, false⟩

abbrev within (args : List String) (text : List Char) : CommandSplitting :=
  ⟨args, text, .unquoted, false, true⟩

theorem isBareArgumentChar_range {c : Char} (bare : isBareArgumentChar c = true) :
    43 ≤ c.toNat ∧ c.toNat ≤ 122 := by
  simp only [isBareArgumentChar, Bool.or_eq_true, List.contains_iff_mem] at bare
  rcases bare with letter | mark
  · simp only [Char.isAlphanum, Char.isAlpha, Char.isUpper, Char.isLower, Char.isDigit,
      Bool.or_eq_true, Bool.and_eq_true, decide_eq_true_eq, UInt32.le_iff_toNat_le] at letter
    simp only [Char.toNat]
    grind
  · have marks : "/._-:+".toList.all (fun c => 43 ≤ c.toNat && c.toNat ≤ 122) = true := by
      decide
    have range := List.all_eq_true.mp marks c mark
    simpa using range

theorem isBareArgumentChar_isOrdinary {c : Char} (bare : isBareArgumentChar c = true) :
    Shell.isOrdinary c = true := by
  have special : "|&;<>()$`\\\"'*?[#~=%{}!".toList.all (fun c => !isBareArgumentChar c) = true := by
    decide
  have range := isBareArgumentChar_range bare
  have visible : ∀ blank : Char, blank.toNat < 43 → c ≠ blank := by
    rintro blank small rfl
    omega
  have meant : Shell.isSpecial c = false := by
    rw [← Bool.not_eq_true, Shell.isSpecial, List.contains_iff_mem]
    intro listed
    have refused := List.all_eq_true.mp special c listed
    simp [bare] at refused
  simp [Shell.isOrdinary, meant, visible ' ' (by decide), visible '\t' (by decide),
    visible '\n' (by decide)]

theorem feed_bare {c : Char} (bare : isBareArgumentChar c = true) (args : List String)
    (text : List Char) (inToken : Bool) :
    CommandSplitting.feed ⟨args, text, .unquoted, false, inToken⟩ c =
      within args (text ++ [c]) := by
  have quotes : "\\'\"".toList.all (fun c => !isBareArgumentChar c) = true := by decide
  have apart : ∀ quote ∈ "\\'\"".toList, c ≠ quote := by
    rintro quote listed rfl
    have refused := List.all_eq_true.mp quotes c listed
    simp [bare] at refused
  have range := isBareArgumentChar_range bare
  have visible : Text.isWhitespace c = false := by
    simp [Text.isWhitespace]
    omega
  simp [CommandSplitting.feed, CommandSplitting.push, visible, apart]

theorem foldl_bare {text : List Char} (bare : text.all isBareArgumentChar = true)
    (args : List String) (held : List Char) :
    text.foldl CommandSplitting.feed (within args held) = within args (held ++ text) := by
  induction text generalizing held with
  | nil => simp
  | cons c rest ih =>
    rw [List.all_cons, Bool.and_eq_true] at bare
    rw [List.foldl_cons, feed_bare bare.1, ih bare.2]
    simp

theorem foldl_quoteChar (c : Char) (args : List String) (held : List Char) :
    (Shell.quoteChar c).foldl CommandSplitting.feed ⟨args, held, .single, false, true⟩ =
      ⟨args, held ++ [c], .single, false, true⟩ := by
  unfold Shell.quoteChar
  split
  · next same =>
    subst same
    simp [CommandSplitting.feed, CommandSplitting.push, CommandSplitting.escape]
  · next different =>
    simp [CommandSplitting.feed, CommandSplitting.push, different]

theorem foldl_quoted (text : List Char) (args : List String) :
    (Shell.quoted text).foldl CommandSplitting.feed (between args) = within args text := by
  have inner : ∀ held : List Char, (text.flatMap Shell.quoteChar).foldl CommandSplitting.feed
      ⟨args, held, .single, false, true⟩ = ⟨args, held ++ text, .single, false, true⟩ := by
    induction text with
    | nil => simp
    | cons c rest ih =>
      intro held
      rw [List.flatMap_cons, List.foldl_append, foldl_quoteChar, ih]
      simp
  have opened : CommandSplitting.feed (between args) '\'' = ⟨args, [], .single, false, true⟩ := by
    simp [CommandSplitting.feed]
  rw [Shell.quoted, List.foldl_cons, opened, List.foldl_append, inner]
  simp [CommandSplitting.feed]

theorem toList_singleQuote (value : String) :
    (singleQuote value).toList = Shell.quoted value.toList := by
  simp only [singleQuote, Text.replace, String.toList_append, String.toList_ofList, Shell.quoted]
  rfl

theorem quoteArgument_cases (value : String) :
    (value ≠ "" ∧ value.toList.all isBareArgumentChar = true ∧ quoteArgument value = value) ∨
      quoteArgument value = singleQuote value := by
  unfold quoteArgument
  split
  · exact .inr rfl
  · next given =>
    split
    · next bare => exact .inl ⟨given, bare, rfl⟩
    · exact .inr rfl

theorem foldl_quoteArgument (value : String) (args : List String) :
    (quoteArgument value).toList.foldl CommandSplitting.feed (between args) =
      within args value.toList := by
  rcases quoteArgument_cases value with ⟨given, bare, same⟩ | same
  · rw [same]
    cases text : value.toList with
    | nil => exact absurd (String.toList_eq_nil_iff.mp text) given
    | cons c rest =>
      rw [text, List.all_cons, Bool.and_eq_true] at bare
      rw [List.foldl_cons, feed_bare bare.1, foldl_bare bare.2]
      simp
  · rw [same, toList_singleQuote, foldl_quoted]

theorem spells_quoteArgument (lexer : Shell.Lexer) (value : String) :
    lexer.Spells (quoteArgument value).toList value.toList := by
  rcases quoteArgument_cases value with ⟨given, bare, same⟩ | same
  · rw [same]
    refine lexer.spells_ordinary (mt String.toList_eq_nil_iff.mp given) ?_
    rw [List.all_eq_true] at bare ⊢
    exact fun c member => isBareArgumentChar_isOrdinary (bare c member)
  · rw [same, toList_singleQuote]
    exact lexer.spells_quoted value.toList

theorem piece_quoteArgument (parameters : Shell.Parameters) (value : String) :
    Shell.Piece parameters (quoteArgument value).toList (.word value.toList) :=
  (spells_quoteArgument (Shell.Lexer.posix parameters) value).posix.piece

theorem foldl_spaced (arguments args : List String) :
    ((Shell.spaced (arguments.map fun value => (quoteArgument value).toList)).foldl
      CommandSplitting.feed (between args)).finish = .ok (args ++ arguments) := by
  have ended : ∀ (args : List String) (value : String),
      CommandSplitting.feed (within args value.toList) ' ' = between (args ++ [value]) ∧
        (within args value.toList).finish = .ok (args ++ [value]) := by
    intro args value
    have blank : Text.isWhitespace ' ' = true := by decide
    simp [CommandSplitting.feed, CommandSplitting.finish, CommandSplitting.close, blank]
  induction arguments generalizing args with
  | nil => simp [Shell.spaced, CommandSplitting.finish, CommandSplitting.close]
  | cons value rest ih =>
    cases rest with
    | nil =>
      simp only [Shell.spaced, List.map_cons, List.map_nil, List.intercalate_singleton,
        foldl_quoteArgument, (ended args value).2]
    | cons next further =>
      have joined : Shell.spaced ((value :: next :: further).map
          fun value => (quoteArgument value).toList) = (quoteArgument value).toList ++
            ' ' :: Shell.spaced ((next :: further).map fun value => (quoteArgument value).toList) :=
        by simp [Shell.spaced, List.intercalate]
      rw [joined, List.foldl_append, foldl_quoteArgument, List.foldl_cons, (ended args value).1, ih]
      simp

/-- A line of quoted arguments is split into the arguments, by a shell whatever its parameters
are and by the program's own splitter. -/
theorem quoted_arguments_split (arguments : List String) :
    (∀ parameters, Shell.split parameters (" ".intercalate (arguments.map quoteArgument)).toList =
      some (arguments.map fun value => .word value.toList)) ∧
    splitProcessAgentCommand (" ".intercalate (arguments.map quoteArgument)) = .ok arguments := by
  have text : (" ".intercalate (arguments.map quoteArgument)).toList =
      Shell.spaced (arguments.map fun value => (quoteArgument value).toList) := by
    rw [String.toList_intercalate, List.map_map]
    rfl
  constructor
  · intro parameters
    rw [text]
    apply Shell.split_spaced
    rw [List.forall₂_map_left_iff, List.forall₂_map_right_iff]
    exact List.forall₂_same.mpr fun value _ => piece_quoteArgument parameters value
  · rw [splitProcessAgentCommand, text]
    exact foldl_spaced arguments []

end Mult.Runtime
