import Mathlib.Logic.Function.Basic
import Mult.Foundation.Spans
import Mult.Project.State
import Mult.Terminal.Screen

/-! The text of a selection, which may reach beyond the rows in view. It is read a screenful at a
time, by scrolling.
-/

set_option autoImplicit false

namespace Mult.Terminal
open Foundation
open Project (PtyKey)

/-- `as u16` -/
def asU16 (value : Int) : Nat := (value % 2 ^ 16).toNat

/-- What does not change while rows are read. -/
structure Selection where
  view : Int
  size : Size
  firstRow : Int
  startCol : Nat
  lastRow : Int
  endColExclusive : Nat

namespace Selection

def lastVisible (selection : Selection) : Int := (selection.size.rows - 1 : Nat)

/-- The loop over the rows, with the text so far. -/
def read (selection : Selection) (parser : Grid) (row : Int) (text : List Char) :
    List Char × Grid :=
  if row ≤ selection.lastRow then
    let wanted := min (max (selection.view - row) 0) parser.scrollback.length
    let parser := parser.setScrollback wanted.toNat
    let shift := parser.scrollbackOffset - selection.view
    let top := row + shift
    if top > selection.lastVisible then (text, parser)
    else if top < 0 then selection.read parser (-shift) text
    else
      let chunkEnd := min selection.lastRow (selection.lastVisible - shift)
      let viewStart := asU16 top
      let viewEnd := asU16 (chunkEnd + shift)
      let fromCol :=
        if row = selection.firstRow then min selection.startCol (selection.size.cols - 1) else 0
      let toCol :=
        if chunkEnd = selection.lastRow then min selection.endColExclusive selection.size.cols
        else selection.size.cols
      let text := text ++ parser.contentsBetween viewStart fromCol viewEnd toCol
      let text :=
        if chunkEnd < selection.lastRow && !parser.rowWrapped viewEnd then text ++ ['\n'] else text
      selection.read parser (chunkEnd + 1) text
  else (text, parser)
termination_by (selection.lastRow + 1 - row).toNat
decreasing_by
  · change (selection.lastRow + 1 - -shift).toNat < (selection.lastRow + 1 - row).toNat
    have : row + shift < 0 := by assumption
    omega
  · change (selection.lastRow + 1 - (chunkEnd + 1)).toNat < (selection.lastRow + 1 - row).toNat
    have : ¬row + shift > selection.lastVisible := by assumption
    have reaches : row ≤ chunkEnd := Int.le_min.mpr ⟨by assumption, by omega⟩
    omega

end Selection

abbrev Parsers := PtyKey → Option Grid

def contentsBetweenRows (parsers : Parsers) (terminal : PtyKey) (startRow : Int) (startCol : Nat)
    (endRow : Int) (endColExclusive : Nat) : Option (List Char) × Parsers :=
  match parsers terminal with
  | none => (none, parsers)
  | some parser =>
    if parser.size.rows = 0 ∨ parser.size.cols = 0 ∨ startRow > endRow then (none, parsers)
    else
      let selection : Selection :=
        ⟨parser.scrollbackOffset, parser.size, startRow, startCol, endRow, endColExclusive⟩
      let (text, parser) := selection.read parser startRow []
      let parser := parser.setScrollback selection.view.toNat
      (if text = [] then none else some text, Function.update parsers terminal (some parser))

/-! ## The rows by number -/

namespace Grid

/-- A row by its number, counted from the first in view: those before it are scrolled out. -/
def row? (grid : Grid) (number : Int) : Option Row :=
  let index := number + (grid.scrollback.length - grid.scrollbackOffset)
  if 0 ≤ index then grid.lines[index.toNat]? else none

/-- The text of one of the rows from the first to the last. The first row starts and the last ends
at a column of its own; the others are whole, and each but the last ends a line unless it is
wrapped. -/
def rowText (firstRow : Int) (startCol : Nat) (lastRow : Int) (endCol cols : Nat) (number : Int)
    (row : Row) : List Char :=
  row.text (if number = firstRow then startCol else 0) (if number = lastRow then endCol else cols) ++
    if number < lastRow ∧ row.wrapped = false then ['\n'] else []

/-- The text of those rows of the numbers from the first to the last that exist. -/
def textOfRows (grid : Grid) (firstRow : Int) (startCol : Nat) (lastRow : Int)
    (endColExclusive : Nat) : List Char :=
  (span firstRow lastRow).flatMap fun number =>
    (grid.row? number).elim [] <|
      rowText firstRow (min startCol (grid.size.cols - 1)) lastRow
        (min endColExclusive grid.size.cols) grid.size.cols number

variable {grid : Grid}

theorem row?_place (index : Nat) :
    grid.row? (index - (grid.scrollback.length - grid.scrollbackOffset)) = grid.lines[index]? := by
  rw [row?, Int.sub_add_cancel, if_pos (Int.natCast_nonneg index), Int.toNat_natCast]

theorem row?_newer {number : Int} (newer : grid.size.rows + grid.scrollbackOffset ≤ number) :
    grid.row? number = none := by
  have within := grid.within
  have filled := grid.filled
  unfold row?
  dsimp only
  split
  · apply List.getElem?_eq_none
    rw [lines, List.length_append]
    omega
  · rfl

theorem row?_older {number : Int}
    (older : number < grid.scrollbackOffset - grid.scrollback.length) :
    grid.row? number = none := if_neg (by omega)

theorem visibleRows_setScrollback (offset : Nat) {index : Nat} (shown : index < grid.size.rows) :
    (grid.setScrollback offset).visibleRows[index]? =
      grid.row? (index - ((grid.setScrollback offset).scrollbackOffset - grid.scrollbackOffset)) := by
  have below : (grid.setScrollback offset).scrollbackOffset ≤ grid.scrollback.length :=
    (grid.setScrollback offset).within
  rw [visibleRows_getElem? (grid.setScrollback offset) shown]
  change grid.lines[grid.scrollback.length - _ + index]? = _
  rw [← row?_place]
  congr 1
  omega

theorem contentsBetween_eq (grid : Grid) {startRow endRow : Nat} (startCol endCol : Nat)
    (ordered : startRow ≤ endRow) (shown : endRow < grid.size.rows) :
    grid.contentsBetween startRow startCol endRow endCol =
      (span startRow endRow).flatMap fun index =>
        (grid.visibleRows[index.toNat]?).elim []
          (rowText startRow startCol endRow endCol grid.size.cols index) := by
  rw [← grid.length_visibleRows] at shown
  unfold contentsBetween
  rcases Nat.lt_or_eq_of_le ordered with before | rfl
  · rw [Nat.compare_eq_lt.mpr before]
    have pieces := flatMap_zipIdx grid.visibleRows (fun entry : Row × Nat =>
        if entry.2 = startRow then
          entry.1.text startCol grid.size.cols ++ if !entry.1.wrapped then ['\n'] else []
        else if entry.2 = endRow then entry.1.text 0 endCol
        else entry.1.text 0 grid.size.cols ++ if !entry.1.wrapped then ['\n'] else [])
      startRow (endRow - startRow + 1) (by omega)
    rw [List.flatMap_eq_foldl] at pieces
    refine Eq.trans ?_ (pieces.trans ?_)
    · dsimp only
      congr 1
      funext contents ⟨row, index⟩
      dsimp only
      rw [Row.writeContents_append _ contents, Row.writeContents_append _ contents,
        Row.writeContents_append _ contents]
      split
      · cases row.wrapped <;> simp [Row.text]
      · split
        · rfl
        · cases row.wrapped <;> simp [Row.text]
    · rw [show (startRow : Int) + (endRow - startRow + 1 : Nat) - 1 = endRow by omega]
      apply List.flatMap_congr
      intro index member
      obtain ⟨above, below⟩ := mem_span.mp member
      cases grid.visibleRows[index.toNat]? with
      | none => rfl
      | some row =>
        dsimp only [Option.elim, rowText]
        by_cases first : index = startRow
        · subst first
          have : startRow ≠ endRow := Nat.ne_of_lt before
          cases row.wrapped <;> simp [before, this]
        · have : index.toNat ≠ startRow := by omega
          rw [if_neg this, if_neg first]
          by_cases last : index = endRow
          · subst last
            simp
          · have : index.toNat ≠ endRow := by omega
            have : index < endRow := by omega
            cases row.wrapped <;> simp [*]
  · rw [Nat.compare_eq_eq.mpr rfl, span_singleton, List.flatMap_singleton, Int.toNat_natCast]
    dsimp only
    rw [List.getElem?_map]
    cases grid.visibleRows[startRow]? with
    | none => split <;> rfl
    | some row =>
      simp only [Option.map_some, Option.getD_some, Option.elim, rowText, ↓reduceIte, Row.text,
        lt_irrefl, false_and, List.append_nil]
      split
      · rfl
      · next empty => simp [Row.writeContents, Nat.sub_eq_zero_of_le (Nat.not_lt.mp empty)]

theorem rowText_chunk {firstRow row number chunkEnd lastRow : Int} (started : firstRow ≤ row)
    (above : row ≤ number) (below : number ≤ chunkEnd) (ending : chunkEnd ≤ lastRow)
    (startCol endCol cols : Nat) (shift : Int) (line : Row) :
    rowText (row + shift) (if row = firstRow then startCol else 0) (chunkEnd + shift)
        (if chunkEnd = lastRow then endCol else cols) cols (number + shift) line ++
      (if number = chunkEnd ∧ chunkEnd < lastRow && !line.wrapped then ['\n'] else []) =
    rowText firstRow startCol lastRow endCol cols number line := by
  have starts : (if number + shift = row + shift then if row = firstRow then startCol else 0
      else 0) = if number = firstRow then startCol else 0 := by split_ifs <;> omega
  have stops : (if number + shift = chunkEnd + shift then
      if chunkEnd = lastRow then endCol else cols else cols) =
      if number = lastRow then endCol else cols := by split_ifs <;> omega
  rw [rowText, rowText, starts, stops, List.append_assoc]
  congr 1
  rcases Int.lt_or_eq_of_le below with earlier | rfl
  · have : number < lastRow := Int.lt_of_lt_of_le earlier ending
    have : number ≠ chunkEnd := Int.ne_of_lt earlier
    simp [*]
  · cases line.wrapped <;> simp

/-- Rows of the view, read at once after scrolling, with the line break that follows them. -/
theorem contentsBetween_scrolled (grid : Grid) (offset : Nat) {shift : Int} (row chunkEnd : Int)
    (scrolled : ((grid.setScrollback offset).scrollbackOffset : Int) - grid.scrollbackOffset = shift)
    (from_top : 0 ≤ row + shift) (ordered : row ≤ chunkEnd)
    (shown : chunkEnd + shift < grid.size.rows) {firstRow lastRow : Int} (started : firstRow ≤ row)
    (ending : chunkEnd ≤ lastRow) (startCol endCol : Nat) :
    let parser := grid.setScrollback offset
    parser.contentsBetween (asU16 (row + shift)) (if row = firstRow then startCol else 0)
        (asU16 (chunkEnd + shift)) (if chunkEnd = lastRow then endCol else grid.size.cols) ++
      (if chunkEnd < lastRow && !parser.rowWrapped (asU16 (chunkEnd + shift)) then ['\n'] else []) =
    (span row chunkEnd).flatMap fun number =>
      (grid.row? number).elim [] (rowText firstRow startCol lastRow endCol grid.size.cols number) := by
  intro parser
  have narrow := grid.size.rows_lt
  obtain ⟨top, top_eq⟩ := Int.eq_ofNat_of_zero_le from_top
  obtain ⟨bottom, bottom_eq⟩ := Int.eq_ofNat_of_zero_le
    (Int.le_trans from_top (Int.add_le_add_right ordered shift))
  have small : ∀ value : Nat, value < grid.size.rows → asU16 value = value := by
    intro value below
    rw [asU16, Int.emod_eq_of_lt (Int.natCast_nonneg value) (by omega), Int.toNat_natCast]
  have seen : ∀ number, row ≤ number → number ≤ chunkEnd →
      parser.visibleRows[(number + shift).toNat]? = grid.row? number := by
    intro number above below
    rw [visibleRows_setScrollback offset (by omega), scrolled]
    congr 1
    omega
  rw [top_eq, bottom_eq, small top (by omega), small bottom (by omega),
    contentsBetween_eq parser _ _ (by omega) (show bottom < grid.size.rows by omega), ← top_eq,
    ← bottom_eq, ← map_add_span, List.flatMap_map]
  have below : bottom < parser.size.rows := show bottom < grid.size.rows by omega
  obtain ⟨line, found⟩ : ∃ line, parser.visibleRows[bottom]? = some line :=
    ⟨_, List.getElem?_eq_getElem (parser.length_visibleRows ▸ below)⟩
  have wrapped : parser.rowWrapped bottom = line.wrapped := by rw [rowWrapped, found]; rfl
  have there : grid.row? chunkEnd = some line := by
    rw [← seen chunkEnd ordered (Int.le_refl _), bottom_eq, Int.toNat_natCast, found]
  -- The last row of the window apart: whether it ends a line is asked for separately.
  have last : span row chunkEnd = span row (chunkEnd - 1) ++ [chunkEnd] := by
    rw [span_append (chunkEnd - 1) (by omega) (by omega),
      show chunkEnd - 1 + 1 = chunkEnd by omega, span_singleton]
  have same : parser.size = grid.size := rfl
  rw [wrapped, same, last, List.flatMap_append, List.flatMap_append, List.append_assoc]
  congr 1
  · apply List.flatMap_congr
    intro number member
    obtain ⟨above, below⟩ := mem_span.mp member
    rw [seen number above (by omega)]
    cases grid.row? number with
    | none => rfl
    | some other =>
      have text := rowText_chunk started above (by omega) ending startCol endCol grid.size.cols shift
        other
      have earlier : number ≠ chunkEnd := by omega
      simpa [earlier] using text
  · rw [List.flatMap_singleton, List.flatMap_singleton, seen chunkEnd ordered (Int.le_refl _), there]
    have text := rowText_chunk started ordered (Int.le_refl _) ending startCol endCol grid.size.cols
      shift line
    simpa using text

end Grid

/-! ## The whole selection -/

section
variable {grid : Grid} {selection : Selection}

/-- The text of the rows from a number on. -/
def Selection.rest (selection : Selection) (grid : Grid) (row : Int) : List Char :=
  (span row selection.lastRow).flatMap fun number =>
    (grid.row? number).elim [] <|
      Grid.rowText selection.firstRow (min selection.startCol (grid.size.cols - 1))
        selection.lastRow (min selection.endColExclusive grid.size.cols) grid.size.cols number

theorem Selection.rest_skip {row : Int} (next : Int) (ahead : row ≤ next)
    (missing : ∀ number, row ≤ number → number < next → grid.row? number = none) :
    selection.rest grid row = selection.rest grid next := by
  have nothing : ∀ last, last < next → (span row last).flatMap (fun number =>
      (grid.row? number).elim [] <|
        Grid.rowText selection.firstRow (min selection.startCol (grid.size.cols - 1))
          selection.lastRow (min selection.endColExclusive grid.size.cols) grid.size.cols number) =
      [] := by
    intro last before
    rw [List.flatMap_eq_nil_iff]
    intro number member
    obtain ⟨above, below⟩ := mem_span.mp member
    rw [missing number above (by omega)]
    rfl
  unfold rest
  by_cases reaches : next ≤ selection.lastRow + 1
  · rw [span_append (next - 1) (by omega) (by omega), List.flatMap_append,
      nothing (next - 1) (by omega), show next - 1 + 1 = next by omega]
    rfl
  · rw [nothing selection.lastRow (by omega), span_nil (by omega)]
    rfl

theorem Selection.rest_append {row : Int} (chunkEnd : Int) (ordered : row ≤ chunkEnd + 1)
    (ending : chunkEnd ≤ selection.lastRow) :
    selection.rest grid row =
      (span row chunkEnd).flatMap (fun number =>
        (grid.row? number).elim [] <|
          Grid.rowText selection.firstRow (min selection.startCol (grid.size.cols - 1))
            selection.lastRow (min selection.endColExclusive grid.size.cols) grid.size.cols number) ++
        selection.rest grid (chunkEnd + 1) := by
  rw [Selection.rest, span_append chunkEnd ordered ending, List.flatMap_append, Selection.rest]

theorem Selection.read_eq (viewed : selection.view = grid.scrollbackOffset)
    (sized : selection.size = grid.size) (tall : 0 < grid.size.rows) (row : Int)
    (started : selection.firstRow ≤ row) (offset : Nat) (text : List Char) :
    ∃ after, selection.read (grid.setScrollback offset) row text =
      (text ++ selection.rest grid row, grid.setScrollback after) := by
  -- On how many rows are left. Each turn ends behind the window it read, or at the oldest row.
  induction left : (selection.lastRow + 1 - row).toNat using Nat.strong_induction_on
    generalizing row offset text with
  | _ left ih =>
    have lastVisible : selection.lastVisible = grid.size.rows - 1 := by
      rw [Selection.lastVisible, sized]
      omega
    rw [Selection.read]
    by_cases within : row ≤ selection.lastRow
    · rw [if_pos within]
      dsimp only
      have again : ∀ rows, (grid.setScrollback offset).setScrollback rows =
        grid.setScrollback rows := fun _ => rfl
      have held : (grid.setScrollback offset).scrollback = grid.scrollback := rfl
      have reached : ((grid.setScrollback (min (max (selection.view - row) 0)
          grid.scrollback.length).toNat).scrollbackOffset : Int) =
          min (max (selection.view - row) 0) grid.scrollback.length := by
        simp only [Grid.setScrollback]
        omega
      simp only [again, held, sized]
      generalize (min (max (selection.view - row) 0) (grid.scrollback.length : Int)).toNat =
        scrolled at reached ⊢
      generalize moved : ((grid.setScrollback scrolled).scrollbackOffset : Int) - selection.view =
        shift
      have inside := grid.within
      by_cases newer : row + shift > selection.lastVisible
      · -- The row is below the last there is, and so are all that follow.
        rw [if_pos newer, selection.rest_skip (max row (selection.lastRow + 1)) (by omega)
          fun number above _ => Grid.row?_newer (by omega), Selection.rest, span_nil (by omega)]
        exact ⟨scrolled, by rw [List.flatMap_nil, List.append_nil]⟩
      · rw [if_neg newer]
        by_cases older : row + shift < 0
        · -- The row is above the oldest, where the view cannot go: the loop goes on at that.
          rw [if_pos older, selection.rest_skip (-shift) (by omega)
            fun number _ below => Grid.row?_older (by omega)]
          exact ih _ (by omega) (-shift) (by omega) scrolled text rfl
        · rw [if_neg older]
          generalize chunk : min selection.lastRow (selection.lastVisible - shift) = chunkEnd
          have read := Grid.contentsBetween_scrolled grid scrolled row chunkEnd
            (viewed ▸ moved) (by omega) (by omega) (by omega) started
            (show chunkEnd ≤ selection.lastRow by omega)
            (min selection.startCol (grid.size.cols - 1))
            (min selection.endColExclusive grid.size.cols)
          have texts : ∀ (ends : Bool) (between : List Char),
              (if ends then text ++ between ++ ['\n'] else text ++ between) =
                text ++ (between ++ if ends then ['\n'] else []) := by
            intro ends between
            cases ends <;> simp
          rw [texts, read, selection.rest_append chunkEnd (by omega) (by omega),
            ← List.append_assoc]
          exact ih _ (by omega) (chunkEnd + 1) (by omega) scrolled _ rfl
    · rw [if_neg within, Selection.rest, span_nil (Int.not_le.mp within)]
      exact ⟨offset, by rw [List.flatMap_nil, List.append_nil]⟩

/-- For every range of rows, of whatever screen and wherever the view of it is, the text is that of
the rows of the range that exist, each once and in order, and nothing is left scrolled. -/
theorem contents_between_rows_exact (parsers : Parsers) (terminal : PtyKey) (startRow : Int)
    (startCol : Nat) (endRow : Int) (endColExclusive : Nat) :
    contentsBetweenRows parsers terminal startRow startCol endRow endColExclusive =
      ((parsers terminal).bind fun grid =>
        if grid.size.rows = 0 ∨ grid.size.cols = 0 ∨ startRow > endRow then none
        else
          let text := grid.textOfRows startRow startCol endRow endColExclusive
          if text = [] then none else some text, parsers) := by
  unfold contentsBetweenRows
  cases found : parsers terminal with
  | none => rfl
  | some grid =>
    dsimp only [Option.bind]
    split
    · rfl
    · next proper =>
      have tall : 0 < grid.size.rows := Nat.pos_of_ne_zero fun flat => proper (.inl flat)
      have unmoved : ∀ offset, (grid.setScrollback offset).setScrollback grid.scrollbackOffset =
          grid := by
        intro offset
        simp only [Grid.setScrollback, Nat.min_eq_left grid.within]
      obtain ⟨after, read⟩ := @Selection.read_eq grid ⟨grid.scrollbackOffset, grid.size, startRow,
        startCol, endRow, endColExclusive⟩ rfl rfl tall startRow (Int.le_refl _)
        grid.scrollbackOffset []
      have here : grid.setScrollback grid.scrollbackOffset = grid := by
        simp only [Grid.setScrollback, Nat.min_eq_left grid.within]
      rw [here, List.nil_append] at read
      rw [read]
      dsimp only
      rw [Int.toNat_natCast, unmoved, ← found, Function.update_eq_self]
      rfl

end

end Mult.Terminal
