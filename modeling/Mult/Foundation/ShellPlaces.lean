import Mult.Foundation.ShellWords

/-! Words that are put into a line in the place of a mark, in a shell of which no more is known
than how it reads quotes.
-/

set_option autoImplicit false

namespace Mult.Foundation.Shell.Lexer

variable {lexer : Lexer}

/-- A word that begins here is read as one behind these words. -/
def Begins (state : lexer.State) (around : lexer.Surroundings) (tokens : List Token) : Prop :=
  ∀ c, (c = '\'' || isOrdinary c) = true →
    lexer.feed state c = lexer.feed (lexer.place around (outside tokens none)) c

/-- How the shell reads the pieces of a line with these words at the mark between each two: every
mark stands as an unquoted word, and it is that word that is read as these. -/
inductive Stands (words : List Token) :
    lexer.State → List (List Char) → Option lexer.Result → Prop where
  | last {state middle : lexer.State} {around : lexer.Surroundings} {tokens : List Token}
      {piece final : List Char} (reads : lexer.Reads state piece middle)
      (begins : Begins middle around tokens) (ends : final.head?.all endsWord = true) :
      Stands words state [piece, final]
        (lexer.run (lexer.place around (outside (tokens ++ words) none)) final)
  | more {state middle : lexer.State} {around : lexer.Surroundings} {tokens : List Token}
      {piece next : List Char} {rest : List (List Char)} {result : Option lexer.Result}
      (reads : lexer.Reads state piece middle) (begins : Begins middle around tokens)
      (ends : next.head?.any endsWord = true)
      (others : Stands words (lexer.place around (outside (tokens ++ words) none)) (next :: rest)
        result) :
      Stands words state (piece :: next :: rest) result

/-- No word that is taken for the number of a redirection. -/
def isWord (word : List Char) : Bool := word.any fun d => !d.isDigit

theorem run_ended {around : lexer.Surroundings} {tokens : List Token} {word rest : List Char}
    (ends : rest.head?.all endsWord = true) (nonDigit : isWord word = true) :
    lexer.run (lexer.place around (outside tokens (some word))) rest =
      lexer.run (lexer.place around (outside (tokens ++ [.word word]) none)) rest := by
  cases rest with
  | nil => exact lexer.finished around tokens word
  | cons c further =>
    have same := lexer.ended around tokens word c (by simpa using ends) fun _ => nonDigit
    simp only [run, List.foldlM_cons, same]

theorem reads_blank (around : lexer.Surroundings) (tokens : List Token) (word : List Char) :
    lexer.Reads (lexer.place around (outside tokens (some word))) [' ']
      (lexer.place around (outside (tokens ++ [.word word]) none)) := by
  have blank : ¬(' ' = '<' ∨ ' ' = '>') := by decide
  refine Reads.cons _ ?_ rfl
  rw [lexer.ended around tokens word ' ' (by decide) fun redirection => absurd redirection blank]
  exact lexer.blank around (tokens ++ [.word word])

theorem spaced_cons (text next : List Char) (further : List (List Char)) :
    spaced (text :: next :: further) = text ++ ' ' :: spaced (next :: further) := by
  simp [spaced, List.intercalate]

theorem run_words {texts values : List (List Char)}
    (spells : List.Forall₂ lexer.Spells texts values) (given : values ≠ [])
    (nonDigit : values.getLast?.all isWord = true) {rest : List Char}
    (ends : rest.head?.all endsWord = true) (around : lexer.Surroundings) (tokens : List Token) :
    lexer.run (lexer.place around (outside tokens none)) (spaced texts ++ rest) =
      lexer.run (lexer.place around (outside (tokens ++ values.map .word) none)) rest := by
  induction spells generalizing tokens with
  | nil => exact absurd rfl given
  | @cons text value texts values spells others ih =>
    have read := (spells around tokens none).run
    cases others with
    | nil =>
      have alone : spaced [text] = text := List.intercalate_singleton
      rw [alone, read]
      exact run_ended ends (by simpa using nonDigit)
    | @cons next second further values _ _ =>
      have later := ih (by simp) (by simpa using nonDigit) (tokens ++ [.word value])
      rw [spaced_cons, List.append_assoc, read, List.cons_append]
      have blank := (reads_blank around tokens value).run (spaced (next :: further) ++ rest)
      simp only [List.cons_append, List.nil_append] at blank
      simpa using blank.trans later

theorem Begins.run {state : lexer.State} {around : lexer.Surroundings} {tokens : List Token}
    (begins : Begins state around tokens) {c : Char} (opens : (c = '\'' || isOrdinary c) = true)
    (rest : List Char) :
    lexer.run state (c :: rest) =
      lexer.run (lexer.place around (outside tokens none)) (c :: rest) := by
  simp only [Lexer.run, List.foldlM_cons, begins c opens]

/-- The line with the words written at the marks is read as the line with the words themselves
there. -/
theorem Stands.run {texts values : List (List Char)}
    (spells : List.Forall₂ lexer.Spells texts values) (given : values ≠ [])
    (nonDigit : values.getLast?.all isWord = true)
    (opens : (spaced texts).head?.any (fun c => c = '\'' || isOrdinary c) = true)
    {state : lexer.State} {pieces : List (List Char)} {result : Option lexer.Result}
    (stands : Stands (values.map .word) state pieces result) :
    lexer.run state ((spaced texts).intercalate pieces) = result := by
  -- One mark, with what follows it.
  have placed : ∀ {middle around tokens rest}, Begins middle around tokens →
      rest.head?.all endsWord = true → lexer.run middle (spaced texts ++ rest) =
        lexer.run (lexer.place around (outside (tokens ++ values.map .word) none)) rest := by
    intro middle around tokens rest begins ends
    rw [← run_words spells given nonDigit ends around tokens]
    cases text : spaced texts with
    | nil => simp [text] at opens
    | cons c further => exact begins.run (by simpa [text] using opens) _
  induction stands with
  | @last state middle around tokens piece final reads begins ends =>
    have line : (spaced texts).intercalate [piece, final] = piece ++ (spaced texts ++ final) := by
      simp [List.intercalate]
    rw [line, reads.run, placed begins ends]
  | @more state middle around tokens piece next rest result reads begins ends others ih =>
    have line : (spaced texts).intercalate (piece :: next :: rest) =
        piece ++ (spaced texts ++ (spaced texts).intercalate (next :: rest)) := by
      simp [List.intercalate]
    have ending : ((spaced texts).intercalate (next :: rest)).head?.all endsWord = true := by
      cases next with
      | nil => simp at ends
      | cons c further =>
        have first : ((spaced texts).intercalate ((c :: further) :: rest)).head? = some c := by
          cases rest <;> simp [List.intercalate]
        rw [first]
        simpa using ends
    rw [line, reads.run, placed begins ending, ih]

end Mult.Foundation.Shell.Lexer
