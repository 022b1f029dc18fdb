import Mult.Foundation.ShellWords

/-! How `fish` reads one word of a line. Between single quotes a backslash in front of a
backslash or a quote escapes it, where a POSIX shell has no escapes at all.
-/

set_option autoImplicit false

namespace Mult.Foundation.Shell

/-- How a shell goes on from text outside quotes: the rest of the word, where the text is one. -/
abbrev Unquoted := List Char → Option (List Char)

/-- The word the text is, where all of it is one word. `quoted` is set between single quotes. -/
def fishWord (unquoted : Unquoted) : (quoted : Bool) → List Char → Option (List Char)
  | false, [] => some []
  | false, '\'' :: rest => fishWord unquoted true rest
  | false, '\\' :: '\'' :: rest => (fishWord unquoted false rest).map ('\'' :: ·)
  | false, text => unquoted text
  -- A quote that is open at the end of the line is an error.
  | true, [] => none
  | true, '\'' :: rest => fishWord unquoted false rest
  | true, '\\' :: '\\' :: rest => (fishWord unquoted true rest).map ('\\' :: ·)
  | true, '\\' :: '\'' :: rest => (fishWord unquoted true rest).map ('\'' :: ·)
  | true, c :: rest => (fishWord unquoted true rest).map (c :: ·)

section
variable {unquoted : Unquoted} (rest : List Char)

theorem fishWord_opens : fishWord unquoted false ('\'' :: rest) = fishWord unquoted true rest := rfl

theorem fishWord_closes : fishWord unquoted true ('\'' :: rest) = fishWord unquoted false rest := rfl

theorem fishWord_quote_outside : fishWord unquoted false ('\\' :: '\'' :: rest) =
    (fishWord unquoted false rest).map ('\'' :: ·) := rfl

theorem fishWord_quote_inside : fishWord unquoted true ('\\' :: '\'' :: rest) =
    (fishWord unquoted true rest).map ('\'' :: ·) := rfl

theorem fishWord_backslash_inside : fishWord unquoted true ('\\' :: '\\' :: rest) =
    (fishWord unquoted true rest).map ('\\' :: ·) := rfl

end

/-- No backslash stands in front of a backslash, a quote or the end. -/
def backslashesApart : List Char → Bool
  | [] => true
  | c :: rest =>
      !(c = '\\' && (rest.head?.all fun next => next = '\\' || next = '\'')) && backslashesApart rest

variable {unquoted : Unquoted}

/-- What is written between the single quotes, with the closing quote. -/
abbrev quotedRest (text : List Char) : List Char := text.flatMap quoteChar ++ ['\'']

theorem quotedRest_quote (rest : List Char) :
    quotedRest ('\'' :: rest) = '\'' :: '\\' :: '\'' :: '\'' :: quotedRest rest := by
  simp [quotedRest, quoteChar]

theorem quotedRest_other {c : Char} (different : c ≠ '\'') (rest : List Char) :
    quotedRest (c :: rest) = c :: quotedRest rest := by
  simp [quotedRest, quoteChar, different]

theorem fishWord_quote (rest : List Char) :
    fishWord unquoted true (quotedRest ('\'' :: rest)) =
      (fishWord unquoted true (quotedRest rest)).map ('\'' :: ·) := by
  rw [quotedRest_quote, fishWord_closes, fishWord_quote_outside, fishWord_opens]

theorem fishWord_other {c : Char} (text : List Char) (noQuote : c ≠ '\'') (noBackslash : c ≠ '\\') :
    fishWord unquoted true (c :: text) = (fishWord unquoted true text).map (c :: ·) := by
  rw [fishWord]
  all_goals simp_all

theorem fishWord_pair (rest : List Char) :
    fishWord unquoted true (quotedRest ('\\' :: '\\' :: rest)) =
      (fishWord unquoted true (quotedRest rest)).map ('\\' :: ·) := by
  rw [quotedRest_other (by decide), quotedRest_other (by decide), fishWord_backslash_inside]

/-- The backslash takes the quote behind it along, whether that quote stands for one in the text
or closes the text. -/
theorem fishWord_takes_quote {rest value : List Char} (behind : rest.head?.all (· = '\'') = true)
    (read : fishWord unquoted true (quotedRest ('\\' :: rest)) = some value) :
    value.head? = some '\'' := by
  have starts : ∃ further, quotedRest rest = '\'' :: further := by
    cases rest with
    | nil => exact ⟨[], rfl⟩
    | cons c further =>
      have quote : c = '\'' := by simpa using behind
      rw [quote, quotedRest_quote]
      exact ⟨_, rfl⟩
  obtain ⟨further, same⟩ := starts
  rw [quotedRest_other (by decide), same, fishWord_quote_inside, Option.map_eq_some_iff] at read
  obtain ⟨tail, -, rfl⟩ := read
  rfl

theorem fishWord_backslash {c : Char} (rest : List Char) (noQuote : c ≠ '\'')
    (noBackslash : c ≠ '\\') :
    fishWord unquoted true (quotedRest ('\\' :: c :: rest)) =
      (fishWord unquoted true (quotedRest (c :: rest))).map ('\\' :: ·) := by
  rw [quotedRest_other (by decide), quotedRest_other noQuote, fishWord]
  all_goals simp_all

theorem fishWord_quotedRest {text : List Char} (apart : backslashesApart text = true) :
    fishWord unquoted true (quotedRest text) = some text := by
  induction text with
  | nil => rfl
  | cons c rest ih =>
    rw [backslashesApart, Bool.and_eq_true] at apart
    have read := ih apart.2
    by_cases quote : c = '\''
    · rw [quote, fishWord_quote, read]
      rfl
    by_cases backslash : c = '\\'
    · subst backslash
      cases rest with
      | nil => simp at apart
      | cons next further =>
        have different : next ≠ '\\' ∧ next ≠ '\'' := by simpa using apart.1
        rw [fishWord_backslash further different.2 different.1, read]
        rfl
    · rw [quotedRest_other quote, fishWord_other _ quote backslash, read]
      rfl

/-- A word that begins with a backslash was not begun by a quote, and not by a backslash that a
quote follows. -/
theorem begins_backslash {text value : List Char}
    (read : fishWord unquoted true (quotedRest text) = some value)
    (starts : value.head? = some '\\') :
    ∃ next rest, text = '\\' :: next :: rest ∧ next ≠ '\'' := by
  cases text with
  | nil =>
    cases read
    cases starts
  | cons c rest =>
    by_cases quote : c = '\''
    · rw [quote, fishWord_quote, Option.map_eq_some_iff] at read
      obtain ⟨tail, -, rfl⟩ := read
      cases starts
    by_cases backslash : c = '\\'
    · subst backslash
      by_cases behind : rest.head?.all (· = '\'') = true
      · have taken := fishWord_takes_quote behind read
        cases starts.symm.trans taken
      cases rest with
      | nil => simp at behind
      | cons next further => exact ⟨next, further, rfl, by simpa using behind⟩
    · rw [quotedRest_other quote, fishWord_other _ quote backslash, Option.map_eq_some_iff] at read
      obtain ⟨tail, -, rfl⟩ := read
      exact absurd (Option.some.inj starts) backslash

/-- Once a backslash is lost, the word stays behind: what follows cannot make up for it. -/
theorem fishWord_lags (text : List Char) (lost : Nat) :
    fishWord unquoted true (quotedRest text) ≠ some (List.replicate (lost + 1) '\\' ++ text) := by
  intro read
  obtain ⟨next, rest, rfl, noQuote⟩ := begins_backslash read rfl
  by_cases pair : next = '\\'
  · subst pair
    rw [fishWord_pair, Option.map_eq_some_iff] at read
    obtain ⟨tail, read, same⟩ := read
    have longer : tail = List.replicate (lost + 1 + 1) '\\' ++ rest := by
      rw [List.replicate_succ, List.cons_append] at same
      rw [(List.cons.inj same).2, List.replicate_succ', List.replicate_succ']
      simp
    exact fishWord_lags rest (lost + 1) (longer ▸ read)
  · rw [fishWord_backslash rest noQuote pair, Option.map_eq_some_iff] at read
    obtain ⟨tail, read, same⟩ := read
    have second : tail.head? = some '\\' := by
      rw [List.replicate_succ, List.cons_append] at same
      rw [(List.cons.inj same).2]
      cases lost <;> rfl
    obtain ⟨_, _, begun, -⟩ := begins_backslash read second
    exact pair (List.cons.inj begun).1
termination_by text.length

theorem backslashesApart_of_fishWord {text : List Char}
    (read : fishWord unquoted true (quotedRest text) = some text) :
    backslashesApart text = true := by
  induction text with
  | nil => rfl
  | cons c rest ih =>
    by_cases quote : c = '\''
    · subst quote
      rw [fishWord_quote] at read
      simpa [backslashesApart] using ih (by simpa using read)
    by_cases backslash : c = '\\'
    · subst backslash
      obtain ⟨next, further, same, noQuote⟩ := begins_backslash read rfl
      obtain rfl := (List.cons.inj same).2
      by_cases pair : next = '\\'
      · subst pair
        rw [fishWord_pair] at read
        exact absurd (by simpa using read) (fishWord_lags further 0)
      · rw [fishWord_backslash further noQuote pair] at read
        simpa [backslashesApart, pair, noQuote] using ih (by simpa using read)
    · rw [quotedRest_other quote, fishWord_other _ quote backslash] at read
      simpa [backslashesApart, backslash] using ih (by simpa using read)

/-- `fish` reads the single-quoted form as the text exactly where no backslash stands in front of a
backslash, a quote or the end. -/
theorem fishWord_quoted (text : List Char) :
    fishWord unquoted false (quoted text) = some text ↔ backslashesApart text = true := by
  have opened : fishWord unquoted false (quoted text) = fishWord unquoted true (quotedRest text) := by
    rw [quoted, fishWord_opens]
  rw [opened]
  exact ⟨backslashesApart_of_fishWord, fishWord_quotedRest⟩

end Mult.Foundation.Shell
