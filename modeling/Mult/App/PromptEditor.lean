import Mult.Foundation.Offsets
import Mult.Foundation.Text

/-! The input of a prompt: a text edited at a cursor that counts characters, against an editor that
holds the characters before the cursor and those after it.
-/

set_option autoImplicit false

namespace Mult.App
open Foundation
open Foundation.Text (byteOffset slice replaceRange)
open String (utf8Len)

structure PromptInput where
  text : List Char
  cursor : Nat
  deriving DecidableEq, Repr

inductive PromptEdit where
  | insert (c : Char)
  | backspace
  | deleteForward
  | moveLeft
  | moveRight
  | moveHome
  | moveEnd
  | deleteWordBefore
  | deleteToStart
  deriving DecidableEq, Repr

def skipBack (unwanted : Char → Bool) (chars : List Char) : Nat → Option Nat
  | 0 => some 0
  | index + 1 =>
    match chars[index]? with
    | none => none
    | some c => if unwanted c then skipBack unwanted chars index else some (index + 1)

namespace PromptInput

def new (text : List Char) : PromptInput := ⟨text, text.length⟩

def charCount (input : PromptInput) : Nat := input.text.length

def splitAtCursor (input : PromptInput) : Option (List Char × List Char × List Char) := do
  let start := byteOffset input.text input.cursor
  let stop := byteOffset input.text (input.cursor + 1)
  let before ← slice input.text 0 start
  let cell ← slice input.text start stop
  let after ← slice input.text stop (utf8Len input.text)
  some (before, cell, after)

/-- Whether anything has changed, and the input then; nothing where the source panics, because an
offset is within a character or an index behind the end. -/
def apply (input : PromptInput) : PromptEdit → Option (Bool × PromptInput)
  | .insert c => do
    let text ← Text.insert input.text (byteOffset input.text input.cursor) c
    some (true, ⟨text, input.cursor + 1⟩)
  | .backspace =>
    if input.cursor = 0 then some (false, input)
    else do
      let stop := byteOffset input.text input.cursor
      let start := byteOffset input.text (input.cursor - 1)
      let text ← replaceRange input.text start stop []
      some (true, ⟨text, input.cursor - 1⟩)
  | .deleteForward =>
    let start := byteOffset input.text input.cursor
    let stop := byteOffset input.text (input.cursor + 1)
    if start = stop then some (false, input)
    else do
      let text ← replaceRange input.text start stop []
      some (true, ⟨text, input.cursor⟩)
  | .moveLeft =>
    if input.cursor = 0 then some (false, input)
    else some (true, { input with cursor := input.cursor - 1 })
  | .moveRight =>
    if input.charCount ≤ input.cursor then some (false, input)
    else some (true, { input with cursor := input.cursor + 1 })
  | .moveHome => some (decide (input.cursor ≠ 0), { input with cursor := 0 })
  | .moveEnd =>
    some (decide (input.cursor ≠ input.charCount), { input with cursor := input.charCount })
  | .deleteWordBefore =>
    if input.cursor = 0 then some (false, input)
    else do
      let index ← skipBack Text.isWhitespace input.text input.cursor
      let index ← skipBack (fun c => !Text.isWhitespace c) input.text index
      let start := byteOffset input.text index
      let stop := byteOffset input.text input.cursor
      let text ← replaceRange input.text start stop []
      some (true, ⟨text, index⟩)
  | .deleteToStart =>
    if input.cursor = 0 then some (false, input)
    else do
      let text ← replaceRange input.text 0 (byteOffset input.text input.cursor) []
      some (true, ⟨text, 0⟩)

def applyAll (input : PromptInput) : List PromptEdit → Option PromptInput
  | [] => some input
  | edit :: edits => (input.apply edit).bind fun result => applyAll result.2 edits

end PromptInput

/-- Of the characters before the cursor, the nearest first, those before the word that ends there. -/
def dropWord (before : List Char) : List Char :=
  (before.dropWhile Text.isWhitespace).dropWhile fun c => !Text.isWhitespace c

theorem dropWord_suffix (before : List Char) : dropWord before <:+ before :=
  (List.dropWhile_suffix _).trans (List.dropWhile_suffix _)

theorem dropWord_ne {before : List Char} (some : before ≠ []) : dropWord before ≠ before := by
  cases before with
  | nil => exact absurd rfl some
  | cons c rest =>
    have shorter : dropWord (c :: rest) <:+ rest := by
      rw [dropWord, List.dropWhile_cons]
      split
      · exact dropWord_suffix rest
      · next visible =>
        rw [List.dropWhile_cons, if_pos (by simpa using visible)]
        exact List.dropWhile_suffix _
    intro same
    have length := shorter.length_le
    rw [same, List.length_cons] at length
    omega

/-- The characters before the cursor, the nearest first, and those after it. -/
structure Editor where
  before : List Char
  after : List Char
  deriving DecidableEq, Repr

namespace Editor

def ofText (text : List Char) : Editor := ⟨text.reverse, []⟩

def text (editor : Editor) : List Char := editor.before.reverse ++ editor.after

def apply : Editor → PromptEdit → Editor
  | ⟨before, after⟩, .insert c => ⟨c :: before, after⟩
  | ⟨before, after⟩, .backspace => ⟨before.tail, after⟩
  | ⟨before, after⟩, .deleteForward => ⟨before, after.tail⟩
  | ⟨[], after⟩, .moveLeft => ⟨[], after⟩
  | ⟨c :: before, after⟩, .moveLeft => ⟨before, c :: after⟩
  | ⟨before, []⟩, .moveRight => ⟨before, []⟩
  | ⟨before, c :: after⟩, .moveRight => ⟨c :: before, after⟩
  | ⟨before, after⟩, .moveHome => ⟨[], before.reverse ++ after⟩
  | ⟨before, after⟩, .moveEnd => ⟨after.reverse ++ before, []⟩
  | ⟨before, after⟩, .deleteWordBefore => ⟨dropWord before, after⟩
  | ⟨_, after⟩, .deleteToStart => ⟨[], after⟩

/-- The input that stands for an editor. -/
def input (editor : Editor) : PromptInput := ⟨editor.text, editor.before.length⟩

theorem input_injective : Function.Injective input := by
  rintro ⟨before, after⟩ ⟨before', after'⟩ same
  obtain ⟨text, cursor⟩ := PromptInput.mk.inj same
  obtain ⟨front, back⟩ := List.append_inj text (by simpa using cursor)
  exact congrArg₂ Editor.mk (List.reverse_injective front) back

theorem ofText_input (text : List Char) : (ofText text).input = PromptInput.new text := by
  simp [input, ofText, Editor.text, PromptInput.new]

end Editor

/-! ## The simulation -/

section
variable (before after : List Char)

theorem byteOffset_cursor :
    byteOffset (before.reverse ++ after) before.length = utf8Len before.reverse := by
  have found := Text.byteOffset_append before.reverse after
  rwa [List.length_reverse] at found

theorem byteOffset_next (c : Char) :
    byteOffset (before.reverse ++ c :: after) (before.length + 1) =
      utf8Len (before.reverse ++ [c]) := by
  have found := byteOffset_cursor (c :: before) after
  rwa [List.reverse_cons, List.append_assoc] at found

theorem skipBack_reverse (unwanted : Char → Bool) :
    skipBack unwanted (before.reverse ++ after) before.length =
      some (before.dropWhile unwanted).length := by
  induction before generalizing after with
  | nil => rfl
  | cons c rest ih =>
    have here : ((c :: rest).reverse ++ after)[rest.length]? = some c := by
      rw [List.reverse_cons, List.append_assoc, List.getElem?_append_right (by simp)]
      simp
    rw [List.length_cons, skipBack, here, List.dropWhile_cons]
    dsimp only
    split
    · rw [List.reverse_cons, List.append_assoc]
      exact ih _
    · rfl

theorem skipBack_word :
    (skipBack Text.isWhitespace (before.reverse ++ after) before.length).bind
      (skipBack (fun c => !Text.isWhitespace c) (before.reverse ++ after)) =
        some (dropWord before).length := by
  obtain ⟨blanks, split⟩ := List.dropWhile_suffix (l := before) Text.isWhitespace
  have found := skipBack_reverse (before.dropWhile Text.isWhitespace) (blanks.reverse ++ after)
    fun c => !Text.isWhitespace c
  rw [← List.append_assoc, ← List.reverse_append, split] at found
  rw [skipBack_reverse, Option.bind_some, found]
  rfl

theorem replaceRange_before (kept removed : List Char) (split : before = removed ++ kept) :
    replaceRange (before.reverse ++ after) (byteOffset (before.reverse ++ after) kept.length)
      (byteOffset (before.reverse ++ after) before.length) [] =
        some (kept.reverse ++ after) := by
  have found := Text.byteOffset_append kept.reverse (removed.reverse ++ after)
  rw [List.length_reverse] at found
  rw [byteOffset_cursor, split, List.reverse_append, List.append_assoc, found,
    Text.replaceRange_append, List.append_nil]

end

theorem apply_input (editor : Editor) (edit : PromptEdit) :
    editor.input.apply edit =
      some (decide (editor.apply edit ≠ editor), (editor.apply edit).input) := by
  obtain ⟨before, after⟩ := editor
  cases edit with
  | insert c =>
    have inserted : Text.insert (before.reverse ++ after)
        (byteOffset (before.reverse ++ after) before.length) c =
          some (before.reverse ++ c :: after) := by
      rw [byteOffset_cursor, Text.insert_append]
    simp [PromptInput.apply, Editor.input, Editor.text, Editor.apply, inserted]
  | backspace =>
    cases before with
    | nil => simp [PromptInput.apply, Editor.input, Editor.apply]
    | cons c before =>
      have replaced := replaceRange_before (c :: before) after before [c] rfl
      rw [List.length_cons] at replaced
      simp [PromptInput.apply, Editor.input, Editor.text, Editor.apply, -List.reverse_cons, replaced]
  | deleteForward =>
    cases after with
    | nil =>
      -- At the end of the text the next character is where the cursor is.
      have short : byteOffset before.reverse before.length =
          byteOffset before.reverse (before.length + 1) := by
        rw [Text.byteOffset_eq, Text.byteOffset_eq, List.take_of_length_le (by simp),
          List.take_of_length_le (by simp)]
      simp [PromptInput.apply, Editor.input, Editor.text, Editor.apply, short]
    | cons c after =>
      have apart : utf8Len before.reverse ≠ utf8Len (before.reverse ++ [c]) := by
        have some := c.utf8Size_pos
        simp only [String.utf8Len_append, String.utf8Len_cons]
        omega
      have replaced : replaceRange (before.reverse ++ c :: after) (utf8Len before.reverse)
          (utf8Len (before.reverse ++ [c])) [] = some (before.reverse ++ after) := by
        have found := Text.replaceRange_append before.reverse [c] after []
        rwa [List.append_nil] at found
      simp only [PromptInput.apply, Editor.input, Editor.text, Editor.apply, byteOffset_cursor,
        byteOffset_next, if_neg apart, replaced]
      simp
  | moveLeft => cases before <;> simp [PromptInput.apply, Editor.input, Editor.text, Editor.apply]
  | moveRight =>
    cases after <;>
      simp [PromptInput.apply, PromptInput.charCount, Editor.input, Editor.text, Editor.apply]
  | moveHome =>
    cases before <;> simp [PromptInput.apply, Editor.input, Editor.text, Editor.apply]
  | moveEnd =>
    cases after with
    | nil => simp [PromptInput.apply, PromptInput.charCount, Editor.input, Editor.text, Editor.apply]
    | cons c after =>
      simp only [PromptInput.apply, PromptInput.charCount, Editor.input, Editor.text, Editor.apply]
      simp
      omega
  | deleteWordBefore =>
    cases before with
    | nil => simp [PromptInput.apply, Editor.input, Editor.apply, dropWord]
    | cons c rest =>
      have changes := dropWord_ne (List.cons_ne_nil c rest)
      -- The loops back over blanks and then a word remove what the editor drops.
      have skipped := skipBack_word (c :: rest) after
      obtain ⟨removed, split⟩ := dropWord_suffix (c :: rest)
      have replaced := replaceRange_before (c :: rest) after _ removed split.symm
      have opened : (Editor.mk (c :: rest) after).input.cursor ≠ 0 := Nat.succ_ne_zero _
      rw [PromptInput.apply, if_neg opened]
      simp only [Editor.input, Editor.text, Editor.apply, Option.bind_eq_bind]
      rw [← Option.bind_assoc, skipped, Option.bind_some, replaced, Option.bind_some]
      simp [changes]
  | deleteToStart =>
    cases before with
    | nil => simp [PromptInput.apply, Editor.input, Editor.apply]
    | cons c before =>
      have replaced := replaceRange_before (c :: before) after [] (c :: before) (by simp)
      rw [List.length_nil, Text.byteOffset_eq, List.take_zero] at replaced
      have opened : (Editor.mk (c :: before) after).input.cursor ≠ 0 := Nat.succ_ne_zero _
      rw [PromptInput.apply, if_neg opened]
      simp only [Editor.input, Editor.text, Editor.apply, Option.bind_eq_bind]
      rw [← String.utf8Len_nil, replaced, Option.bind_some]
      simp

theorem applyAll_input (editor : Editor) (edits : List PromptEdit) :
    editor.input.applyAll edits = some (edits.foldl Editor.apply editor).input := by
  induction edits generalizing editor with
  | nil => rfl
  | cons edit edits ih =>
    rw [PromptInput.applyAll, apply_input, Option.bind_some]
    exact ih (editor.apply edit)

theorem splitAtCursor_input (editor : Editor) :
    editor.input.splitAtCursor =
      some (editor.before.reverse, editor.after.take 1, editor.after.drop 1) := by
  obtain ⟨before, after⟩ := editor
  have stop : byteOffset (before.reverse ++ after) (before.length + 1) =
      utf8Len (before.reverse ++ after.take 1) := by
    rw [Text.byteOffset_eq, List.take_append, List.length_reverse, Nat.add_sub_cancel_left,
      List.take_of_length_le (by simp)]
  have first : slice (before.reverse ++ after) 0 (utf8Len before.reverse) = some before.reverse :=
    Text.slice_append [] before.reverse after
  have cell := Text.slice_append before.reverse (after.take 1) (after.drop 1)
  have last := Text.slice_append (before.reverse ++ after.take 1) (after.drop 1) []
  rw [List.take_append_drop] at cell
  rw [List.append_nil, List.append_assoc, List.take_append_drop] at last
  simp only [PromptInput.splitAtCursor, Editor.input, Editor.text, byteOffset_cursor, stop,
    Option.bind_eq_bind, first, cell, last, Option.bind_some]

/-- However a text is edited, the source never panics, the text and the cursor are those of the
editor, cutting the text at the cursor loses nothing, and a further edit says whether it changes
anything. -/
theorem prompt_simulates (text : List Char) (edits : List PromptEdit) :
    let editor := edits.foldl Editor.apply (.ofText text)
    ∃ input, (PromptInput.new text).applyAll edits = some input ∧
      input.text = editor.text ∧ input.cursor = editor.before.length ∧
      input.cursor ≤ input.text.length ∧
      (∃ before cell after, input.splitAtCursor = some (before, cell, after) ∧
        before ++ cell ++ after = input.text ∧ before = editor.before.reverse ∧
        cell = editor.after.take 1) ∧
      ∀ edit, ∃ changed next, input.apply edit = some (changed, next) ∧
        (changed = true ↔ next ≠ input) := by
  intro editor
  refine ⟨editor.input, ?_, rfl, rfl, ?_, ?_, fun edit => ?_⟩
  · rw [← Editor.ofText_input, applyAll_input]
  · simp [Editor.input, Editor.text]
  · refine ⟨_, _, _, splitAtCursor_input editor, ?_, rfl, rfl⟩
    rw [List.append_assoc, List.take_append_drop]
    rfl
  · refine ⟨_, _, apply_input editor edit, ?_⟩
    rw [decide_eq_true_iff, Editor.input_injective.ne_iff]

/-- Deleting a word with letters of several bytes before and after it. -/
example : ((PromptInput.new "né mañana ".toList).applyAll
    [.moveLeft, .deleteWordBefore, .insert '日', .moveHome, .deleteForward]) =
      some ⟨"é 日 ".toList, 0⟩ := by decide

end Mult.App
