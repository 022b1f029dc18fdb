import Mult.Terminal.Detector

/-! Pasted text on its way to a program that asked for brackets around it, and what such a
program reads.
-/

set_option autoImplicit false

namespace Mult.Terminal
open Protocol

def bracketedPasteStart : Bytes := escapeByte :: ascii "[200~"
def bracketedPasteEnd : Bytes := escapeByte :: ascii "[201~"

def asBytes (text : String) : Bytes := text.toUTF8.data.toList

def terminalPasteBytes (text : String) (bracketed : Bool) : Bytes :=
  if !bracketed then asBytes text
  else bracketedPasteStart ++ asBytes text ++ bracketedPasteEnd

/-- What a program makes of its input. -/
inductive InputEvent where
  | pasteStart
  | pasted (text : Bytes)
  | pasteEnd
  | controlSequence (bytes : Bytes)
  | typed (byte : UInt8)
  deriving DecidableEq, Repr

/-- A sequence that has begun in typed input, or the paste so far. -/
inductive InputReader where
  | typing (pending : Bytes)
  | pasting (held : Bytes)
  deriving DecidableEq, Repr

/-- Whether more bytes belong to a sequence: a control sequence goes on up to its final byte. -/
def goesOn (seen : Bytes) : Bool :=
  seen = [escapeByte, 0x5b] ||
    (([escapeByte, 0x5b] : Bytes).isPrefixOf seen &&
      seen.getLast?.all fun byte => !isFinal byte)

/-- In typed input sequences are told from other bytes; in a paste everything is text up to the
end marker. -/
def InputReader.feed (reader : InputReader) (byte : UInt8) : InputReader × List InputEvent :=
  match reader with
  | .typing pending =>
      let seen := pending ++ [byte]
      if pending = [] then
        if byte = escapeByte then (.typing seen, []) else (.typing [], [.typed byte])
      else if goesOn seen then (.typing seen, [])
      else if seen = bracketedPasteStart then (.pasting [], [.pasteStart])
      else (.typing [], [.controlSequence seen])
  | .pasting held =>
      let seen := held ++ [byte]
      if bracketedPasteEnd.isSuffixOf seen then
        (.typing [], [.pasted (seen.take (seen.length - bracketedPasteEnd.length)), .pasteEnd])
      else (.pasting seen, [])

def InputReader.run : InputReader → Bytes → InputReader × List InputEvent
  | reader, [] => (reader, [])
  | reader, byte :: rest =>
      let (reader, events) := reader.feed byte
      let (reader, more) := reader.run rest
      (reader, events ++ more)

/-- What a program makes of bytes that reach it when nothing is pending. -/
def readInput (bytes : Bytes) : List InputEvent := (InputReader.run (.typing []) bytes).2

theorem run_append (reader : InputReader) (first second : Bytes) :
    reader.run (first ++ second) =
      let (middle, events) := reader.run first
      let (last, more) := middle.run second
      (last, events ++ more) := by
  induction first generalizing reader with
  | nil => simp [InputReader.run]
  | cons byte rest ih => simp [InputReader.run, ih]

theorem run_pasteStart (rest : Bytes) :
    (InputReader.run (.typing []) (bracketedPasteStart ++ rest)).2 =
      .pasteStart :: (InputReader.run (.pasting []) rest).2 := by
  have opened : InputReader.run (.typing []) bracketedPasteStart = (.pasting [], [.pasteStart]) := by
    decide
  rw [run_append, opened]
  rfl

theorem isSuffixOf_pasteEnd {seen : Bytes} :
    bracketedPasteEnd.isSuffixOf seen = true ↔ bracketedPasteEnd <:+ seen :=
  List.isSuffixOf_iff_suffix

theorem run_held {held text : Bytes} (unmarked : ¬ bracketedPasteEnd <:+: held ++ text) :
    InputReader.run (.pasting held) text = (.pasting (held ++ text), []) := by
  induction text generalizing held with
  | nil => simp [InputReader.run]
  | cons byte rest ih =>
    rw [List.append_cons] at unmarked
    have opened : ¬ bracketedPasteEnd.isSuffixOf (held ++ [byte]) = true := by
      rw [isSuffixOf_pasteEnd]
      intro closed
      exact unmarked (closed.isInfix.trans (List.prefix_append _ _).isInfix)
    simp only [InputReader.run, InputReader.feed, if_neg opened, ih unmarked, List.nil_append,
      List.append_assoc]
    rfl

/-- The marker's last byte comes only once in it, so nothing completes it early. -/
theorem isSuffixOf_pasteEnd_other {text : Bytes} {byte : UInt8} (other : byte ≠ 0x7e) :
    bracketedPasteEnd.isSuffixOf (text ++ [byte]) = false := by
  rw [← Bool.not_eq_true, isSuffixOf_pasteEnd]
  rintro ⟨front, same⟩
  have last := congrArg List.getLast? same
  rw [List.getLast?_concat, List.getLast?_append] at last
  exact other (Option.some.inj last).symm

theorem run_pasteEnd (text : Bytes) :
    InputReader.run (.pasting text) bracketedPasteEnd =
      (.typing [], [.pasted text, .pasteEnd]) := by
  have spelled : bracketedPasteEnd = [0x1b, 0x5b, 0x32, 0x30, 0x31, 0x7e] := by decide
  have within : ∀ byte : UInt8, byte ≠ 0x7e → ∀ seen : Bytes,
      InputReader.feed (.pasting seen) byte = (.pasting (seen ++ [byte]), []) := by
    intro byte other seen
    simp only [InputReader.feed, isSuffixOf_pasteEnd_other other, Bool.false_eq_true, if_false]
  have closed : ∀ seen : Bytes, seen ++ [0x7e] = text ++ bracketedPasteEnd →
      InputReader.feed (.pasting seen) 0x7e = (.typing [], [.pasted text, .pasteEnd]) := by
    intro seen whole
    have ended := isSuffixOf_pasteEnd.mpr (List.suffix_append text bracketedPasteEnd)
    simp only [InputReader.feed, whole, ended, if_true]
    simp
  rw [spelled] at closed ⊢
  simp only [InputReader.run, within 0x1b (by decide), within 0x5b (by decide),
    within 0x32 (by decide), within 0x30 (by decide), within 0x31 (by decide)]
  rw [closed _ (by simp)]
  rfl

theorem run_marked {held text : Bytes} (unmarked : ¬ bracketedPasteEnd <:+: held)
    (marked : bracketedPasteEnd <:+: held ++ text) :
    ∃ read rest, (InputReader.run (.pasting held) text).2 = .pasted read :: rest ∧
      read.length + bracketedPasteEnd.length ≤ held.length + text.length := by
  induction text generalizing held with
  | nil => exact absurd (by simpa using marked) unmarked
  | cons byte rest ih =>
    by_cases closed : bracketedPasteEnd.isSuffixOf (held ++ [byte]) = true
    · refine ⟨_, _, by simp only [InputReader.run, InputReader.feed, if_pos closed]; rfl, ?_⟩
      have long := (isSuffixOf_pasteEnd.mp closed).length_le
      simp at long ⊢
      omega
    · rw [isSuffixOf_pasteEnd] at closed
      have onward : ¬ bracketedPasteEnd <:+: held ++ [byte] := by
        rw [List.infix_concat_iff, not_or]
        exact ⟨closed, unmarked⟩
      rw [List.append_cons] at marked
      obtain ⟨read, more, events, short⟩ := ih onward marked
      refine ⟨read, more, ?_, ?_⟩
      · rw [← isSuffixOf_pasteEnd] at closed
        simp only [InputReader.run, InputReader.feed, if_neg closed, events, List.nil_append]
      · simp at short ⊢
        omega

theorem run_bracketed_iff (text : Bytes) :
    (InputReader.run (.pasting []) (text ++ bracketedPasteEnd)).2 = [.pasted text, .pasteEnd] ↔
      ¬ bracketedPasteEnd <:+: text := by
  constructor
  · intro read marked
    obtain ⟨early, rest, events, short⟩ := @run_marked [] text (by decide) marked
    rw [run_append] at read
    dsimp only at read
    rw [events, List.cons_append, List.cons.injEq, InputEvent.pasted.injEq] at read
    rw [read.1] at short
    have long : bracketedPasteEnd.length = 6 := by decide
    simp only [List.length_nil] at short
    omega
  · intro unmarked
    rw [run_append, @run_held [] text unmarked]
    simp [run_pasteEnd]

/-- A program that asked for brackets reads the start, the text and the end, and nothing else,
exactly where the text does not hold the end marker. -/
theorem bracketed_paste_read_iff (text : String) :
    readInput (terminalPasteBytes text true) = [.pasteStart, .pasted (asBytes text), .pasteEnd] ↔
      ¬ bracketedPasteEnd <:+: asBytes text := by
  have bytes : terminalPasteBytes text true =
      bracketedPasteStart ++ (asBytes text ++ bracketedPasteEnd) := by
    simp [terminalPasteBytes]
  rw [readInput, bytes, run_pasteStart, List.cons.injEq, run_bracketed_iff]
  exact and_iff_right rfl

def escapingText : String := "\x1b[201~rm\n"

/-- What stands behind an end marker in the text is typed. -/
theorem bracketed_paste_escaped :
    readInput (terminalPasteBytes escapingText true) ≠
        [.pasteStart, .pasted (asBytes escapingText), .pasteEnd] ∧
      readInput (terminalPasteBytes escapingText true) =
        [.pasteStart, .pasted [], .pasteEnd, .typed 0x72, .typed 0x6d, .typed 0x0a,
          .controlSequence bracketedPasteEnd] := by
  decide

end Mult.Terminal
