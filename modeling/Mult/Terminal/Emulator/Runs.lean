import Mult.Terminal.Emulator.Repairing

/-! The emulator over the whole life of a pane's screen: output, resizes and scrolling in any order.
-/

set_option autoImplicit false

namespace Mult.Terminal.Emulator
open Foundation Protocol
open Client (PtyDimensions ScreenOperation)

namespace Parser

variable {vte : Vte} (widths : CharWidths)

/-- The operation does not leave a cursor or half a character outside of the screen. -/
def FitsFor (parser : Parser vte) : ScreenOperation → Prop
  | .resize size => ∀ mended,
      parser.repairWideCellsBeforeNarrowing widths (sizeOf size) = some mended →
        Fits (sizeOf size) mended.screen.current ∧ Fits (sizeOf size) mended.screen.hidden
  | _ => True

/-- Every resize fits when its turn comes. -/
def FitsAlong (parser : Parser vte) : List ScreenOperation → Prop
  | [] => True
  | operation :: rest =>
      parser.FitsFor widths operation ∧
        ∀ next, parser.apply widths operation = some next → next.FitsAlong rest

/-- The screen of a pane, put through all that the pane has put it through. -/
def replay (vte : Vte) (pane : Client.Parser) : Option (Parser vte) := do
  pane.operations.foldlM (apply widths) (← new vte (sizeOf pane.made))

variable {widths} {size : Size} {parser : Parser vte}

theorem sound_repair (widths : CharWidths) (sound : parser.screen.Sound size) (next : Size) :
    Succeeds (parser.repairWideCellsBeforeNarrowing widths next) fun mended =>
      mended.screen.Sound size := by
  rw [repairWideCellsBeforeNarrowing]
  split
  · exact .some sound
  · have viewed := sound.setScrollback 0
    dsimp only
    split
    · exact .some (viewed.setScrollback _)
    · exact (@sound_process _ _ (parser.setScrollback 0) widths viewed _).bind fun _ mended =>
        .some (mended.setScrollback _)

variable {made : PtyDimensions}

theorem sound_apply (sound : parser.screen.Sound (sizeOf made)) {operation : ScreenOperation}
    (fits : parser.FitsFor widths operation) :
    Succeeds (parser.apply widths operation) fun next =>
      next.screen.Sound (sizeOf (Client.Parser.size ⟨made, [operation]⟩)) := by
  cases operation with
  | process bytes => exact sound_process widths sound bytes
  | resize wanted =>
    obtain ⟨mended, mends, held⟩ := sound_repair widths sound (sizeOf wanted)
    rw [apply, mends]
    obtain ⟨current, hidden⟩ := fits mended mends
    exact (held.setSize (usable_sizeOf wanted)).map fun _ next => next.2.2 current hidden
  | scroll rows => exact .some (sound.setScrollback rows)
  | clampScrollback => exact .some (sound.setScrollback _)

theorem size_cons (made : PtyDimensions) (operation : ScreenOperation)
    (rest : List ScreenOperation) : Client.Parser.size ⟨made, operation :: rest⟩ =
      Client.Parser.size ⟨Client.Parser.size ⟨made, [operation]⟩, rest⟩ := rfl

theorem sound_applyAll (sound : parser.screen.Sound (sizeOf made))
    {operations : List ScreenOperation} (fits : parser.FitsAlong widths operations) :
    Succeeds (operations.foldlM (apply widths) parser) fun next =>
      next.screen.Sound (sizeOf (Client.Parser.size ⟨made, operations⟩)) := by
  induction operations generalizing parser made with
  | nil => exact .pure sound
  | cons operation rest ih =>
    obtain ⟨next, applied, held⟩ := sound_apply sound fits.1
    rw [List.foldlM_cons, applied, size_cons]
    exact ih held (fits.2 next applied)

/-- The screen of a pane that was only ever resized to fit does all its output asks for, and
however it got there it is sound: the cursor and the scrolling region are inside, all lines have
the width of the screen with no half of a wide character on its own, and no more was kept of what
was scrolled out than it keeps at most. -/
theorem replay_sound (vte : Vte) (widths : CharWidths) (pane : Client.Parser)
    (fits : ∀ start, new vte (sizeOf pane.made) = some start →
      start.FitsAlong widths pane.operations) :
    Succeeds (replay widths vte pane) fun parser =>
      parser.screen.Sound (sizeOf pane.size) := by
  have made := usable_sizeOf pane.made
  obtain ⟨screen, makes, sound⟩ := Screen.sound_new made terminalScrollbackLines
  have starts : new vte (sizeOf pane.made) = some ⟨vte.start, screen⟩ := by
    rw [new, makes]
    rfl
  rw [replay, starts]
  exact @sound_applyAll _ _ ⟨vte.start, screen⟩ _ sound _ (fits _ starts)

end Parser

theorem Dormant.fits_of_le {old size : Size} {grid : Grid} (dormant : Dormant old grid)
    (rows : old.rows ≤ size.rows) (cols : old.cols ≤ size.cols) : Fits size grid := by
  have framed := dormant.framed
  refine ⟨framed.savedRow_lt.trans_le rows, framed.savedCol_le.trans cols, fun row member => ?_⟩
  rcases dormant with sound | ⟨-, empty⟩
  · have whole := sound.whole row (List.mem_of_mem_take member)
    refine Bool.eq_false_iff.mpr fun wide => ?_
    have := whole.paired.wide_lt wide
    have := whole.filled
    omega
  · rw [empty, List.take_nil] at member
    exact absurd member List.not_mem_nil

namespace Parser

variable {vte : Vte} {widths : CharWidths} {parser : Parser vte} {made : PtyDimensions}

theorem fitsFor_of_growing (sound : parser.screen.Sound (sizeOf made)) {wanted : PtyDimensions}
    (rows : made.clamped.rows ≤ wanted.clamped.rows)
    (cols : made.clamped.cols ≤ wanted.clamped.cols) :
    parser.FitsFor widths (.resize wanted) := by
  intro mended mends
  have held := (sound_repair widths sound (sizeOf wanted)).of_some mends
  have main : Fits (sizeOf wanted) mended.screen.grid :=
    Dormant.fits_of_le (.inl held.main) rows cols
  have alternate : Fits (sizeOf wanted) mended.screen.alternateGrid :=
    held.alternate.fits_of_le rows cols
  rw [Screen.current, Screen.hidden]
  split
  · exact ⟨alternate, main⟩
  · exact ⟨main, alternate⟩

end Parser

def plainVte : Vte := ⟨Unit, (), fun _ byte => ((), [.print (.ofNat byte.toNat)])⟩

theorem replay_sound_growing :
    Succeeds (Parser.replay plainWidths plainVte
      ⟨⟨2, 2⟩, [.process [0x68, 0x69], .resize ⟨3, 4⟩, .process [0x6f]]⟩)
      fun parser => parser.screen.Sound (sizeOf ⟨3, 4⟩) := by
  refine Parser.replay_sound plainVte plainWidths _ fun start starts => ?_
  obtain ⟨screen, makes, rfl⟩ := Option.map_eq_some_iff.mp starts
  have sound := (Screen.sound_new (usable_sizeOf ⟨2, 2⟩) terminalScrollbackLines).of_some makes
  refine ⟨trivial, fun next processed => ⟨?_, fun last _ => ⟨trivial, fun _ _ => trivial⟩⟩⟩
  have held := (@Parser.sound_process _ _ ⟨plainVte.start, screen⟩ plainWidths sound
    _).of_some processed
  exact Parser.fitsFor_of_growing held (by decide) (by decide)

/-- Not every resize fits: a cursor saved in the last line is outside once that line is gone, and
text at it is too much. -/
example : (Parser.replay plainWidths
    ⟨Unit, (), fun _ byte => ((), [if byte = 0x37 ∨ byte = 0x38 then .escDispatch [] byte
      else if byte = 0x0a then .execute byte else .print (.ofNat byte.toNat)])⟩
    ⟨⟨3, 2⟩, [.process [0x0a, 0x0a, 0x37], .resize ⟨2, 2⟩, .process [0x38, 0x6f]]⟩).isNone := by
  decide

end Mult.Terminal.Emulator
