import Mathlib.Data.List.Basic

/-! How a POSIX shell splits a line into words and operators, one character at a time.

Quoting and the parameters inside double quotes are read as the shell reads them. What the
shell would expand or redirect beyond that has no splitting here.
-/

set_option autoImplicit false

namespace Mult.Foundation.Shell

inductive Token where
  | word (text : List Char)
  | operator (text : List Char)
  deriving DecidableEq, Repr

/-- What the characters read so far leave open. -/
inductive Mode where
  | plain
  | escaped
  | single
  | double
  | doubleEscaped
  | dollar
  | parameter (name : List Char)
  | operator (first : Char)
  deriving DecidableEq, Repr

/-- The tokens that are complete, and the word that is being read. -/
structure Splitting where
  tokens : List Token
  word : Option (List Char)
  mode : Mode
  deriving DecidableEq, Repr

/-- The values of the shell's parameters, where they have one. -/
abbrev Parameters := List Char → Option (List Char)

namespace Splitting

def start : Splitting := ⟨[], none, .plain⟩

def enter (splitting : Splitting) (mode : Mode) : Splitting := { splitting with mode }

def extend (splitting : Splitting) (text : List Char) : Splitting :=
  { splitting with word := some (splitting.word.getD [] ++ text) }

/-- Completes the word that is open. -/
def close (splitting : Splitting) : Splitting :=
  match splitting.word with
  | none => splitting
  | some text => { splitting with tokens := splitting.tokens ++ [.word text], word := none }

def emit (splitting : Splitting) (operator : List Char) : Splitting :=
  { splitting with tokens := splitting.tokens ++ [.operator operator] }

end Splitting

def isNameStart (c : Char) : Bool := c.isAlpha || c = '_'
def isNameRest (c : Char) : Bool := c.isAlphanum || c = '_'

/-- Characters that never stand for themselves outside quotes, or not at every place. -/
def isSpecial (c : Char) : Bool :=
  "|&;<>()$`\\\"'*?[#~=%{}!".toList.contains c

def feedPlain (splitting : Splitting) (c : Char) : Option Splitting :=
  if c = ' ' ∨ c = '\t' then some splitting.close
  else if c = '\n' ∨ c = '(' ∨ c = ')' then some (splitting.close.emit [c])
  else if c = '&' ∨ c = '|' ∨ c = ';' then some (splitting.close.enter (.operator c))
  else if c = '\\' then some (splitting.enter .escaped)
  else if c = '\'' then some ((splitting.extend []).enter .single)
  else if c = '"' then some ((splitting.extend []).enter .double)
  else if isSpecial c then none
  else some (splitting.extend [c])

def feedDouble (splitting : Splitting) (c : Char) : Option Splitting :=
  if c = '"' then some (splitting.enter .plain)
  else if c = '\\' then some (splitting.enter .doubleEscaped)
  else if c = '$' then some (splitting.enter .dollar)
  else if c = '`' then none
  else some ((splitting.extend [c]).enter .double)

def feed (parameters : Parameters) (splitting : Splitting) (c : Char) : Option Splitting :=
  match splitting.mode with
  | .plain => feedPlain splitting c
  | .escaped =>
      -- A backslash and the newline behind it are no part of the line.
      if c = '\n' then some (splitting.enter .plain)
      else some ((splitting.extend [c]).enter .plain)
  | .single =>
      if c = '\'' then some (splitting.enter .plain) else some (splitting.extend [c])
  | .double => feedDouble splitting c
  | .doubleEscaped =>
      if c = '$' ∨ c = '`' ∨ c = '"' ∨ c = '\\' then
        some ((splitting.extend [c]).enter .double)
      else if c = '\n' then some (splitting.enter .double)
      else some ((splitting.extend ['\\', c]).enter .double)
  | .dollar =>
      if isNameStart c then some (splitting.enter (.parameter [c])) else none
  | .parameter name =>
      if isNameRest c then some (splitting.enter (.parameter (name ++ [c])))
      else feedDouble (splitting.extend ((parameters name).getD [])) c
  | .operator first =>
      if c = first then some ((splitting.emit [first, c]).enter .plain)
      else feedPlain ((splitting.emit [first]).enter .plain) c

/-- The tokens of a line that ends here, where no quote is open. -/
def Splitting.finish (splitting : Splitting) : Option (List Token) :=
  match splitting.mode with
  | .plain => some splitting.close.tokens
  | .operator first => some (splitting.emit [first]).tokens
  | _ => none

def split (parameters : Parameters) (line : List Char) : Option (List Token) :=
  (line.foldlM (feed parameters) .start).bind Splitting.finish

/-- Reading the text takes the splitting from one point to the other. -/
def Reads (parameters : Parameters) (before : Splitting) (text : List Char)
    (after : Splitting) : Prop :=
  text.foldlM (feed parameters) before = some after

variable {parameters : Parameters} {before middle after : Splitting}

theorem Reads.nil : Reads parameters before [] before := rfl

theorem Reads.append {first second : List Char} (one : Reads parameters before first middle)
    (other : Reads parameters middle second after) :
    Reads parameters before (first ++ second) after := by
  have folded : first.foldlM (feed parameters) before = some middle := one
  rw [Reads, List.foldlM_append, folded]
  exact other

theorem Reads.cons {c : Char} {rest : List Char} (middle : Splitting)
    (one : feed parameters before c = some middle)
    (other : Reads parameters middle rest after) : Reads parameters before (c :: rest) after := by
  rw [Reads, List.foldlM_cons, one]
  exact other

theorem Reads.split_eq {line : List Char} {tokens : List Token}
    (reads : Reads parameters .start line after) (finished : after.finish = some tokens) :
    split parameters line = some tokens := by
  have folded : line.foldlM (feed parameters) .start = some after := reads
  rw [split, folded]
  exact finished

/-- The tokens so far with a word or nothing open, outside quotes. -/
abbrev outside (tokens : List Token) (word : Option (List Char)) : Splitting :=
  ⟨tokens, word, .plain⟩

variable {tokens : List Token} {word : Option (List Char)}

/-- A character that stands for itself outside quotes. -/
def isOrdinary (c : Char) : Bool :=
  !isSpecial c && !(c = ' ' || c = '\t' || c = '\n')

theorem feed_ordinary {c : Char} (ordinary : isOrdinary c = true) :
    feed parameters (outside tokens word) c =
      some (outside tokens (some (word.getD [] ++ [c]))) := by
  simp [isOrdinary, isSpecial] at ordinary
  simp [feed, feedPlain, Splitting.extend, isSpecial, ordinary]

/-! ### Shells at large -/

/-- What quoting decides about a character: everything between single quotes or behind a
backslash, and outside of quotes what opens them, what escapes and what stands for itself. -/
def quotes (mode : Mode) (c : Char) : Bool :=
  match mode with
  | .single | .escaped => true
  | .plain => c = '\'' || c = '\\' || isOrdinary c
  | _ => false

def endsWord (c : Char) : Bool := " \t\n&|;()<>".toList.contains c

/-- A shell that reads quotes, blanks and ordinary characters as above. The rest of its grammar
is its own, and so is what else it holds where words are read. -/
structure Lexer where
  State : Type
  Surroundings : Type
  Result : Type
  feed : State → Char → Option State
  finish : State → Option Result
  /-- The state in which these words of the surroundings have been read so far. -/
  place : Surroundings → Splitting → State
  quoting : ∀ around splitting c, quotes splitting.mode c = true →
    feed (place around splitting) c = (Shell.feed (fun _ => none) splitting c).map (place around)
  blank : ∀ around tokens,
    feed (place around ⟨tokens, none, .plain⟩) ' ' = some (place around ⟨tokens, none, .plain⟩)
  /-- What ends a word is read as it is behind the word. Digits in front of a redirection are no
  word. -/
  ended : ∀ around tokens word c, endsWord c = true →
    (c = '<' ∨ c = '>' → word.any (fun d => !d.isDigit) = true) →
    feed (place around ⟨tokens, some word, .plain⟩) c =
      feed (place around ⟨tokens ++ [.word word], none, .plain⟩) c
  finished : ∀ around tokens word,
    finish (place around ⟨tokens, some word, .plain⟩) =
      finish (place around ⟨tokens ++ [.word word], none, .plain⟩)

theorem feed_quotes {splitting : Splitting} {c : Char} (decided : quotes splitting.mode c = true) :
    feed parameters splitting c = feed (fun _ => none) splitting c := by
  obtain ⟨tokens, word, mode⟩ := splitting
  cases mode <;> first | rfl | cases decided

/-- The shell whose grammar ends here. -/
def Lexer.posix (parameters : Parameters) : Lexer where
  State := Splitting
  Surroundings := Unit
  Result := List Token
  feed := Shell.feed parameters
  finish := Splitting.finish
  place := fun _ splitting => splitting
  quoting := by
    intro _ splitting c decided
    rw [feed_quotes decided, Option.map_id']
  blank := fun _ _ => rfl
  ended := by
    intro _ tokens word c ends _
    have listed : c ∈ " \t\n&|;()<>".toList := List.contains_iff_mem.mp ends
    simp only [String.reduceToList, List.mem_cons, List.not_mem_nil, or_false] at listed
    rcases listed with rfl | rfl | rfl | rfl | rfl | rfl | rfl | rfl | rfl | rfl <;> rfl
  finished := fun _ _ _ => rfl

namespace Lexer

variable (lexer : Lexer)

def run (state : lexer.State) (line : List Char) : Option lexer.Result :=
  (line.foldlM lexer.feed state).bind lexer.finish

/-- Reading the text takes the shell from one state to the other. -/
def Reads (before : lexer.State) (text : List Char) (after : lexer.State) : Prop :=
  text.foldlM lexer.feed before = some after

variable {lexer} {before middle after : lexer.State} {around : lexer.Surroundings}

theorem Reads.append {first second : List Char} (one : lexer.Reads before first middle)
    (other : lexer.Reads middle second after) : lexer.Reads before (first ++ second) after := by
  have folded : first.foldlM lexer.feed before = some middle := one
  rw [Reads, List.foldlM_append, folded]
  exact other

theorem Reads.cons {c : Char} {rest : List Char} (middle : lexer.State)
    (one : lexer.feed before c = some middle) (other : lexer.Reads middle rest after) :
    lexer.Reads before (c :: rest) after := by
  rw [Reads, List.foldlM_cons, one]
  exact other

theorem Reads.run {text : List Char} (reads : lexer.Reads before text after) (rest : List Char) :
    lexer.run before (text ++ rest) = lexer.run after rest := by
  have folded : text.foldlM lexer.feed before = some after := reads
  rw [Lexer.run, List.foldlM_append, folded]
  rfl

theorem feed_place {splitting next : Splitting} {c : Char}
    (decided : quotes splitting.mode c = true)
    (fed : Shell.feed (fun _ => none) splitting c = some next) :
    lexer.feed (lexer.place around splitting) c = some (lexer.place around next) := by
  rw [lexer.quoting around splitting c decided, fed]
  rfl

variable (lexer)

def Spells (text value : List Char) : Prop :=
  ∀ around tokens word, lexer.Reads (lexer.place around (outside tokens word)) text
    (lexer.place around (outside tokens (some (word.getD [] ++ value))))

theorem spells_ordinary {text : List Char} (opened : text ≠ [])
    (ordinary : text.all isOrdinary = true) : lexer.Spells text text := by
  intro around tokens word
  induction text generalizing word with
  | nil => exact absurd rfl opened
  | cons c rest ih =>
    rw [List.all_cons, Bool.and_eq_true] at ordinary
    refine Reads.cons _ (feed_place (by simp [quotes, ordinary.1]) (feed_ordinary ordinary.1)) ?_
    cases rest with
    | nil => rfl
    | cons next further =>
      have continued := ih (by simp) ordinary.2 (some (word.getD [] ++ [c]))
      simpa using continued

abbrev inside (tokens : List Token) (held : List Char) : Splitting := ⟨tokens, some held, .single⟩

end Lexer

/-- A quote inside single quotes: the quotes are closed, it is escaped, and they are reopened. -/
def quoteChar (c : Char) : List Char :=
  if c = '\'' then "'\\''".toList else [c]

def quoted (text : List Char) : List Char :=
  '\'' :: (text.flatMap quoteChar ++ ['\''])

namespace Lexer

variable (lexer : Lexer)

theorem reads_quoteChar (around : lexer.Surroundings) (tokens : List Token) (c : Char)
    (held : List Char) :
    lexer.Reads (lexer.place around (inside tokens held)) (quoteChar c)
      (lexer.place around (inside tokens (held ++ [c]))) := by
  unfold quoteChar
  split
  · next same =>
    rw [same, show "'\\''".toList = ['\'', '\\', '\'', '\''] from rfl]
    refine Reads.cons (lexer.place around (outside tokens (some held))) ?_ ?_
    · exact feed_place rfl rfl
    refine Reads.cons (lexer.place around ⟨tokens, some held, .escaped⟩) ?_ ?_
    · exact feed_place rfl rfl
    refine Reads.cons (lexer.place around (outside tokens (some (held ++ ['\''])))) ?_ ?_
    · exact feed_place rfl rfl
    refine Reads.cons (lexer.place around (inside tokens (held ++ ['\'']))) ?_ rfl
    refine feed_place rfl ?_
    simp [Shell.feed, feedPlain, Splitting.enter, Splitting.extend]
  · next different =>
    refine Reads.cons (lexer.place around (inside tokens (held ++ [c]))) ?_ rfl
    exact feed_place rfl (by simp [Shell.feed, Splitting.extend, different])

theorem spells_quoted (text : List Char) : lexer.Spells (quoted text) text := by
  intro around tokens word
  have inner : ∀ held : List Char, lexer.Reads (lexer.place around (inside tokens held))
      (text.flatMap quoteChar) (lexer.place around (inside tokens (held ++ text))) := by
    induction text with
    | nil =>
      intro held
      rw [List.append_nil]
      rfl
    | cons c rest ih =>
      intro held
      have continued := (lexer.reads_quoteChar around tokens c held).append (ih (held ++ [c]))
      simpa using continued
  refine Reads.cons (lexer.place around (inside tokens (word.getD []))) ?_ ((inner _).append ?_)
  · refine feed_place rfl ?_
    simp [Shell.feed, feedPlain, Splitting.enter, Splitting.extend]
  · exact Reads.cons _ (feed_place rfl rfl) rfl

end Lexer

def Spells (parameters : Parameters) (text value : List Char) : Prop :=
  ∀ tokens word, Reads parameters (outside tokens word) text
    (outside tokens (some (word.getD [] ++ value)))

theorem Lexer.Spells.posix {text value : List Char}
    (spells : (Lexer.posix parameters).Spells text value) :
    Shell.Spells parameters text value :=
  spells ()

theorem spells_ordinary {text : List Char} (opened : text ≠ [])
    (ordinary : text.all isOrdinary = true) : Spells parameters text text :=
  ((Lexer.posix parameters).spells_ordinary opened ordinary).posix

theorem spells_quoted (text : List Char) : Spells parameters (quoted text) text :=
  ((Lexer.posix parameters).spells_quoted text).posix

/-- A character that would mean something inside double quotes, escaped. -/
def escapeChar (c : Char) : List Char :=
  if c = '"' ∨ c = '\\' ∨ c = '$' ∨ c = '`' then ['\\', c] else [c]

theorem reads_escapeChar (c : Char) (held : List Char) :
    Reads parameters ⟨tokens, some held, .double⟩ (escapeChar c)
      ⟨tokens, some (held ++ [c]), .double⟩ := by
  unfold escapeChar
  split
  · next special =>
    rcases special with same | same | same | same <;>
      simp [Reads, feed, feedDouble, Splitting.enter, Splitting.extend, same]
  · next common =>
    simp only [not_or] at common
    simp [Reads, feed, feedDouble, Splitting.enter, Splitting.extend, common]

theorem reads_escaped (text held : List Char) :
    Reads parameters ⟨tokens, some held, .double⟩ (text.flatMap escapeChar)
      ⟨tokens, some (held ++ text), .double⟩ := by
  induction text generalizing held with
  | nil => simpa using Reads.nil
  | cons c rest ih =>
    have continued := (reads_escapeChar c held).append (ih (held ++ [c]))
    simpa using continued

theorem reads_name {name : List Char} (rest : name.all isNameRest = true) (held start : List Char) :
    Reads parameters ⟨tokens, some held, .parameter start⟩ name
      ⟨tokens, some held, .parameter (start ++ name)⟩ := by
  induction name generalizing start with
  | nil => simpa using Reads.nil
  | cons c further ih =>
    rw [List.all_cons, Bool.and_eq_true] at rest
    refine Reads.cons ⟨tokens, some held, .parameter (start ++ [c])⟩ ?_ ?_
    · simp [feed, Splitting.enter, rest.1]
    · have continued := ih rest.2 (start ++ [c])
      simpa using continued

/-- A parameter in double quotes with text behind it that cannot belong to its name. -/
theorem spells_parameter {first : Char} (name tail tailValue : List Char)
    (starts : isNameStart first = true) (rest : name.all isNameRest = true)
    (apart : ∀ c, (tail ++ ['"']).head? = some c → isNameRest c = false)
    (reads : ∀ tokens held, Reads parameters ⟨tokens, some held, .double⟩ tail
      ⟨tokens, some (held ++ tailValue), .double⟩) :
    Spells parameters ('"' :: '$' :: first :: (name ++ (tail ++ ['"'])))
      ((parameters (first :: name)).getD [] ++ tailValue) := by
  intro tokens word
  let value := (parameters (first :: name)).getD []
  have closing : Reads parameters ⟨tokens, some (word.getD [] ++ value), .double⟩ (tail ++ ['"'])
      (outside tokens (some (word.getD [] ++ (value ++ tailValue)))) := by
    refine (reads tokens (word.getD [] ++ value)).append ?_
    rw [← List.append_assoc]
    exact Reads.cons _ rfl Reads.nil
  refine Reads.cons ⟨tokens, some (word.getD []), .double⟩ ?_ ?_
  · simp [feed, feedPlain, Splitting.enter, Splitting.extend]
  refine Reads.cons ⟨tokens, some (word.getD []), .dollar⟩ rfl ?_
  refine Reads.cons ⟨tokens, some (word.getD []), .parameter [first]⟩ ?_ ?_
  · simp [feed, Splitting.enter, starts]
  refine (reads_name rest (word.getD []) [first]).append ?_
  cases behind : tail ++ ['"'] with
  | nil => simp at behind
  | cons c further =>
    rw [behind] at apart closing
    -- The character behind the name is read twice over: it ends the name, then stands for itself.
    have ended : feed parameters ⟨tokens, some (word.getD []), .parameter ([first] ++ name)⟩ c =
        feed parameters ⟨tokens, some (word.getD [] ++ value), .double⟩ c := by
      simp only [feed, apart c rfl, Bool.false_eq_true, if_false]
      simp only [feedDouble, Splitting.extend, Splitting.enter, Option.getD_some]
      rfl
    rw [Reads, List.foldlM_cons, ended]
    exact closing

/-- The text of one token: a blank behind it, or the end of the line, completes the token. -/
def Piece (parameters : Parameters) (text : List Char) (token : Token) : Prop :=
  ∀ tokens, ∃ last, Reads parameters (outside tokens none) text last ∧
    feed parameters last ' ' = some (outside (tokens ++ [token]) none) ∧
    last.finish = some (tokens ++ [token])

theorem Spells.piece {text value : List Char} (spells : Spells parameters text value) :
    Piece parameters text (.word value) := by
  intro tokens
  exact ⟨_, spells tokens none, rfl, rfl⟩

theorem piece_and : Piece parameters ['&', '&'] (.operator ['&', '&']) := by
  intro tokens
  refine ⟨outside (tokens ++ [.operator ['&', '&']]) none, ?_, rfl, rfl⟩
  simp [Reads, feed, feedPlain, Splitting.enter, Splitting.close, Splitting.emit]

/-- The texts with a blank between each two. -/
abbrev spaced (texts : List (List Char)) : List Char := [' '].intercalate texts

theorem reads_spaced {texts : List (List Char)} {read : List Token}
    (pieces : List.Forall₂ (Piece parameters) texts read) (tokens : List Token) :
    ∃ last, Reads parameters (outside tokens none) (spaced texts) last ∧
      last.finish = some (tokens ++ read) := by
  induction pieces generalizing tokens with
  | nil => exact ⟨outside tokens none, Reads.nil, by simp [Splitting.finish, Splitting.close]⟩
  | @cons text token texts read piece pieces ih =>
    obtain ⟨last, reads, blank, finished⟩ := piece tokens
    cases pieces with
    | nil => exact ⟨last, by simpa [spaced] using reads, finished⟩
    | @cons next _ further _ second rest =>
      obtain ⟨final, others, ended⟩ := ih (tokens ++ [token])
      refine ⟨final, ?_, by simpa using ended⟩
      have joined : spaced (text :: next :: further) = text ++ ' ' :: spaced (next :: further) := by
        simp [spaced, List.intercalate]
      rw [joined]
      exact reads.append (Reads.cons _ blank others)

theorem split_spaced {texts : List (List Char)} {read : List Token}
    (pieces : List.Forall₂ (Piece parameters) texts read) :
    split parameters (spaced texts) = some read := by
  obtain ⟨last, reads, finished⟩ := reads_spaced pieces []
  exact reads.split_eq finished

end Mult.Foundation.Shell
