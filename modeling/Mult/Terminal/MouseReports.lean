import Mult.Terminal.Feeding

/-! The reports of mouse events to a program, in the protocol and the encoding it asked for, and
how such a program reads them.
-/

set_option autoImplicit false

namespace Mult.Terminal
open Protocol

inductive MouseProtocolMode where
  | none
  | press
  | pressRelease
  | buttonMotion
  | anyMotion
  deriving DecidableEq, Repr

inductive MouseProtocolEncoding where
  | default
  | utf8
  | sgr
  deriving DecidableEq, Repr

inductive PtyMouseButton where
  | left
  | middle
  | right
  | wheelUp
  | wheelDown
  | wheelLeft
  | wheelRight
  deriving DecidableEq, Repr

inductive PtyMouseAction where
  | press (button : PtyMouseButton)
  | release (button : PtyMouseButton)
  | drag (button : PtyMouseButton)
  | move
  deriving DecidableEq, Repr

structure PtyMouseReport where
  action : PtyMouseAction
  col : Nat
  row : Nat
  shift : Bool
  alt : Bool
  ctrl : Bool
  deriving DecidableEq, Repr

def mouseButtonNone : UInt8 := 3
def mouseMotionBit : UInt8 := 32

def PtyMouseButton.code : PtyMouseButton → UInt8
  | .left => 0
  | .middle => 1
  | .right => 2
  | .wheelUp => 64
  | .wheelDown => 65
  | .wheelLeft => 66
  | .wheelRight => 67

def PtyMouseButton.isWheel : PtyMouseButton → Bool
  | .wheelUp | .wheelDown | .wheelLeft | .wheelRight => true
  | .left | .middle | .right => false

def PtyMouseAction.button : PtyMouseAction → Option PtyMouseButton
  | .press button | .release button | .drag button => some button
  | .move => none

def modifierBits (shift alt ctrl : Bool) : UInt8 :=
  (if shift then 4 else 0) ||| (if alt then 8 else 0) ||| (if ctrl then 16 else 0)

def PtyMouseAction.isWantedIn (mode : MouseProtocolMode) : PtyMouseAction → Bool
  | .press _ => mode ≠ .none
  | .release button =>
      !button.isWheel && (mode = .pressRelease || mode = .buttonMotion || mode = .anyMotion)
  | .drag button => !button.isWheel && (mode = .buttonMotion || mode = .anyMotion)
  | .move => mode = .anyMotion

def PtyMouseAction.motion : PtyMouseAction → UInt8
  | .drag _ | .move => mouseMotionBit
  | .press _ | .release _ => 0

def PtyMouseAction.isRelease : PtyMouseAction → Bool
  | .release _ => true
  | .press _ | .drag _ | .move => false

/-- The button field in both of the forms the encodings need. -/
structure MouseEventCode where
  button : UInt8
  legacyButton : UInt8
  release : Bool
  deriving DecidableEq, Repr

def mouseEventCode (action : PtyMouseAction) (modifiers : UInt8) : MouseEventCode :=
  let button := (action.button.elim mouseButtonNone PtyMouseButton.code) ||| action.motion |||
    modifiers
  ⟨button, if action.isRelease then mouseButtonNone ||| modifiers else button, action.isRelease⟩

def defaultMouseCoord (coord : Nat) : UInt8 := .ofNat (min coord 223) + 32

/-- The number as a code point, a blank where it is none. -/
def utf8MouseCoord (coord : Nat) : Bytes :=
  if valid : (coord + 32).isValidChar then
    String.utf8EncodeChar (Char.ofNatAux (coord + 32) valid)
  else [0x20]

def encodeMouseEvent (encoding : MouseProtocolEncoding) (code : MouseEventCode) (col row : Nat) :
    Bytes :=
  match encoding with
  | .sgr =>
      escapeByte :: ascii "[<" ++ decimal code.button.toNat ++ ascii ";" ++ decimal col ++
        ascii ";" ++ decimal row ++ ascii (if code.release then "m" else "M")
  | .utf8 =>
      escapeByte :: ascii "[M" ++ [code.legacyButton + 32] ++ utf8MouseCoord col ++
        utf8MouseCoord row
  | .default =>
      escapeByte :: ascii "[M" ++
        [code.legacyButton + 32, defaultMouseCoord col, defaultMouseCoord row]

def mouseReportBytes (mode : MouseProtocolMode) (encoding : MouseProtocolEncoding)
    (report : PtyMouseReport) : Option Bytes :=
  if !report.action.isWantedIn mode then none
  else
    let modifiers := if mode = .press then 0
      else modifierBits report.shift report.alt report.ctrl
    some (encodeMouseEvent encoding (mouseEventCode report.action modifiers) (max report.col 1)
      (max report.row 1))

/-- What a program is told was done; some encodings do not say which button was let go. -/
inductive HeardAction where
  | press (button : PtyMouseButton)
  | release (button : Option PtyMouseButton)
  | drag (button : PtyMouseButton)
  | move
  deriving DecidableEq, Repr

structure HeardMouse where
  action : HeardAction
  shift : Bool
  alt : Bool
  ctrl : Bool
  col : Nat
  row : Nat
  deriving DecidableEq, Repr

/-- The button of a field: the two low bits, and the bit of the wheel. -/
def heardButton (field : UInt8) : Option PtyMouseButton :=
  if field &&& 0x43 = 0 then some .left
  else if field &&& 0x43 = 1 then some .middle
  else if field &&& 0x43 = 2 then some .right
  else if field &&& 0x43 = 64 then some .wheelUp
  else if field &&& 0x43 = 65 then some .wheelDown
  else if field &&& 0x43 = 66 then some .wheelLeft
  else if field &&& 0x43 = 67 then some .wheelRight
  else none

def heardAction (field : UInt8) (released : Bool) : HeardAction :=
  if released then .release (heardButton field)
  else
    match heardButton field with
    | some button => if field &&& 0x20 = 0 then .press button else .drag button
    | none => if field &&& 0x20 = 0 then .release none else .move

def heard (field : UInt8) (released : Bool) (col row : Nat) : HeardMouse :=
  ⟨heardAction field released, field &&& 4 ≠ 0, field &&& 8 ≠ 0, field &&& 16 ≠ 0, col, row⟩

/-- A decimal number and what stands behind it. -/
def readNumber (bytes : Bytes) : Option (Nat × Bytes) :=
  let digits := bytes.takeWhile isDigit
  if digits = [] then none else some (digitsValue digits, bytes.dropWhile isDigit)

def decodeSgr (bytes : Bytes) : Option HeardMouse :=
  match readNumber bytes with
  | some (field, 0x3b :: rest) =>
    match readNumber rest with
    | some (col, 0x3b :: rest) =>
      match readNumber rest with
      | some (row, [final]) =>
          if final = 0x4d then some (heard (.ofNat field) false col row)
          else if final = 0x6d then some (heard (.ofNat field) true col row)
          else none
      | _ => none
    | _ => none
  | _ => none

/-- A code point of one byte or two, which is as far as this encoding goes. -/
def readCodePoint : Bytes → Option (Nat × Bytes)
  | lead :: rest =>
      if lead < 0x80 then some (lead.toNat, rest)
      else
        match rest with
        | next :: rest =>
            if 0xc2 ≤ lead ∧ lead ≤ 0xdf ∧ 0x80 ≤ next ∧ next ≤ 0xbf then
              some ((lead.toNat - 0xc0) * 64 + (next.toNat - 0x80), rest)
            else none
        | [] => none
  | [] => none

def decodeUtf8 (bytes : Bytes) : Option HeardMouse :=
  match readCodePoint bytes with
  | some (field, rest) =>
    match readCodePoint rest with
    | some (col, rest) =>
      match readCodePoint rest with
      | some (row, []) => some (heard (.ofNat (field - 32)) false (col - 32) (row - 32))
      | _ => none
    | _ => none
  | _ => none

def decodeDefault : Bytes → Option HeardMouse
  | [field, col, row] => some (heard (field - 32) false (col - 32).toNat (row - 32).toNat)
  | _ => none

/-- How a program reads a report in the encoding it asked for. -/
def decodeMouse (encoding : MouseProtocolEncoding) (bytes : Bytes) : Option HeardMouse :=
  match encoding, bytes with
  | .sgr, 0x1b :: 0x5b :: 0x3c :: rest => decodeSgr rest
  | .utf8, 0x1b :: 0x5b :: 0x4d :: rest => decodeUtf8 rest
  | .default, 0x1b :: 0x5b :: 0x4d :: rest => decodeDefault rest
  | _, _ => none

/-- How much a mode asks for: presses, then releases, then motion with a button held, then any. -/
def MouseProtocolMode.level : MouseProtocolMode → Nat
  | .none => 0
  | .press => 1
  | .pressRelease => 2
  | .buttonMotion => 3
  | .anyMotion => 4

/-- The least a mode has to ask for to want an event; a wheel is neither let go nor dragged. -/
def PtyMouseAction.level : PtyMouseAction → Option Nat
  | .press _ => some 1
  | .release button => if button.isWheel then none else some 2
  | .drag button => if button.isWheel then none else some 3
  | .move => some 4

def MouseProtocolMode.Wants (mode : MouseProtocolMode) (action : PtyMouseAction) : Prop :=
  ∃ level, action.level = some level ∧ level ≤ mode.level

/-- What was done, as a program hears it that is told which button was let go, or is not. -/
def PtyMouseAction.told (named : Bool) : PtyMouseAction → HeardAction
  | .press button => .press button
  | .release button => .release (if named then some button else none)
  | .drag button => .drag button
  | .move => .move

/-- What a program is to hear of an event: all of it, except that only one encoding names the
button that was let go and one ends at the 223rd column and row, and that the oldest mode knows no
modifiers. -/
def toBeHeard (mode : MouseProtocolMode) (encoding : MouseProtocolEncoding)
    (report : PtyMouseReport) : HeardMouse where
  action := report.action.told (encoding = .sgr)
  shift := mode ≠ .press && report.shift
  alt := mode ≠ .press && report.alt
  ctrl := mode ≠ .press && report.ctrl
  col := if encoding = .default then min report.col 223 else report.col
  row := if encoding = .default then min report.row 223 else report.row

/-- The bytes an encoding may consist of: printable ones, or code points from the blank on, or
bytes from the blank on. -/
def LegalReport (encoding : MouseProtocolEncoding) (bytes : Bytes) : Prop :=
  match encoding with
  | .sgr => ∃ text, bytes = escapeByte :: text ∧ ∀ byte ∈ text, 0x20 ≤ byte ∧ byte ≤ 0x7e
  | .utf8 => ∃ chars : List Char, bytes = escapeByte :: chars.flatMap String.utf8EncodeChar ∧
      ∀ char ∈ chars, ' ' ≤ char
  | .default => ∃ text, bytes = escapeByte :: text ∧ ∀ byte ∈ text, 0x20 ≤ byte

def PtyMouseReport.Within (report : PtyMouseReport) : Prop :=
  (1 ≤ report.col ∧ report.col ≤ maxScreenCols) ∧ 1 ≤ report.row ∧ report.row ≤ maxScreenRows

theorem isWantedIn_iff (mode : MouseProtocolMode) (action : PtyMouseAction) :
    action.isWantedIn mode = true ↔ mode.Wants action := by
  cases mode <;> cases action <;> simp [PtyMouseAction.isWantedIn, MouseProtocolMode.Wants,
    PtyMouseAction.level, MouseProtocolMode.level]

theorem not_isWheel {button : PtyMouseButton} (plain : button.isWheel = false) :
    button = .left ∨ button = .middle ∨ button = .right := by
  cases button <;> simp [PtyMouseButton.isWheel] at plain ⊢

/-- What the two forms of a field say: the button and the modifiers, and the field fits below the
bytes that are not ASCII. -/
def FieldsRead (action : PtyMouseAction) (shift alt ctrl : Bool) : Prop :=
  let code := mouseEventCode action (modifierBits shift alt ctrl)
  heardAction code.button code.release = action.told true ∧
    heardAction code.legacyButton false = action.told false ∧
    ∀ field ∈ [code.button, code.legacyButton],
      decide (field &&& 4 ≠ 0) = shift ∧ decide (field &&& 8 ≠ 0) = alt ∧
        decide (field &&& 16 ≠ 0) = ctrl ∧ field < 96

instance (action : PtyMouseAction) (shift alt ctrl : Bool) :
    Decidable (FieldsRead action shift alt ctrl) :=
  -- Over the two listed fields; the instance that is found would go over all bytes.
  @instDecidableAnd _ _ inferInstance (@instDecidableAnd _ _ inferInstance (List.decidableBAll _ _))

theorem fieldsRead {mode : MouseProtocolMode} {action : PtyMouseAction}
    (wanted : action.isWantedIn mode = true) (shift alt ctrl : Bool) :
    FieldsRead action shift alt ctrl := by
  have pressed : ∀ button shift alt ctrl, FieldsRead (.press button) shift alt ctrl := by
    intro button
    cases button <;> decide
  have others : ∀ button ∈ [PtyMouseButton.left, .middle, .right], ∀ shift alt ctrl,
      FieldsRead (.release button) shift alt ctrl ∧ FieldsRead (.drag button) shift alt ctrl := by
    decide
  have moved : ∀ shift alt ctrl, FieldsRead .move shift alt ctrl := by decide
  cases action with
  | press button => exact pressed button shift alt ctrl
  | release button =>
    simp only [PtyMouseAction.isWantedIn, Bool.and_eq_true, Bool.not_eq_true'] at wanted
    exact (others button (by simpa using not_isWheel wanted.1) shift alt ctrl).1
  | drag button =>
    simp only [PtyMouseAction.isWantedIn, Bool.and_eq_true, Bool.not_eq_true'] at wanted
    exact (others button (by simpa using not_isWheel wanted.1) shift alt ctrl).2
  | move => exact moved shift alt ctrl

theorem toDigits_range {number : Nat} {digit : Char} (listed : digit ∈ Nat.toDigits 10 number) :
    48 ≤ digit.toNat ∧ digit.toNat ≤ 57 := by
  have range := Nat.isDigit_of_mem_toDigits (by decide) (by decide) listed
  simp only [Char.isDigit, Bool.and_eq_true, decide_eq_true_eq, ge_iff_le,
    UInt32.le_iff_toNat_le] at range
  exact range

theorem decimal_digits (number : Nat) : ∀ byte ∈ decimal number, isDigit byte = true := by
  intro byte member
  obtain ⟨digit, listed, rfl⟩ := List.mem_map.mp member
  have range := toDigits_range listed
  simp only [isDigit, decide_eq_true_eq, UInt8.le_iff_toNat_le, UInt8.toNat_ofNat']
  rw [Nat.mod_eq_of_lt (by omega)]
  exact range

theorem digitsValue_decimal (number : Nat) : digitsValue (decimal number) = number := by
  have folded : ∀ (digits : List Char) (value : Nat),
      (∀ digit ∈ digits, 48 ≤ digit.toNat ∧ digit.toNat ≤ 57) →
      (digits.map fun digit => UInt8.ofNat digit.toNat).foldl
          (fun value digit => value * 10 + (digit.toNat - 0x30)) value =
        Nat.ofDigitChars 10 digits value := by
    intro digits
    induction digits with
    | nil => simp
    | cons digit rest ih =>
      intro value ranges
      have range := ranges digit List.mem_cons_self
      rw [List.map_cons, List.foldl_cons, Nat.ofDigitChars_cons,
        ih _ fun other member => ranges other (List.mem_cons_of_mem _ member),
        UInt8.toNat_ofNat', Nat.mod_eq_of_lt (by omega), Nat.mul_comm]
      rfl
  rw [digitsValue, decimal, folded _ _ fun digit listed => toDigits_range listed,
    Nat.ofDigitChars_ten_toDigits]

theorem readNumber_decimal (number : Nat) {byte : UInt8} (other : isDigit byte = false)
    (rest : Bytes) : readNumber (decimal number ++ byte :: rest) = some (number, byte :: rest) := by
  have digits := decimal_digits number
  have given : decimal number ≠ [] := by simp [decimal, Nat.toDigits_ne_nil]
  rw [readNumber, List.takeWhile_append_of_pos digits, List.dropWhile_append_of_pos digits]
  simp [other, given, digitsValue_decimal]

/-! ## The encodings -/

variable {action : PtyMouseAction} {shift alt ctrl : Bool} {col row : Nat}

/-- The event as a reader hears it that is told which button was let go, or is not. -/
abbrev told (named : Bool) (action : PtyMouseAction) (shift alt ctrl : Bool) (col row : Nat) :
    HeardMouse :=
  ⟨action.told named, shift, alt, ctrl, col, row⟩

theorem heard_button (read : FieldsRead action shift alt ctrl) :
    let code := mouseEventCode action (modifierBits shift alt ctrl)
    heard code.button code.release col row = told true action shift alt ctrl col row := by
  obtain ⟨button, -, modifiers⟩ := read
  obtain ⟨shifted, altered, controlled, -⟩ := modifiers _ List.mem_cons_self
  simp only [heard, button, shifted, altered, controlled]

theorem heard_legacyButton (read : FieldsRead action shift alt ctrl) :
    let code := mouseEventCode action (modifierBits shift alt ctrl)
    heard code.legacyButton false col row = told false action shift alt ctrl col row := by
  obtain ⟨-, button, modifiers⟩ := read
  obtain ⟨shifted, altered, controlled, -⟩ :=
    modifiers _ (List.mem_cons_of_mem _ List.mem_cons_self)
  simp only [heard, button, shifted, altered, controlled]

theorem encode_sgr (code : MouseEventCode) (col row : Nat) :
    encodeMouseEvent .sgr code col row = 0x1b :: 0x5b :: 0x3c ::
      (decimal code.button.toNat ++ 0x3b :: (decimal col ++ 0x3b ::
        (decimal row ++ [if code.release then 0x6d else 0x4d]))) := by
  cases released : code.release <;> simp [encodeMouseEvent, escapeByte, ascii, released]

theorem decode_sgr (read : FieldsRead action shift alt ctrl) :
    decodeMouse .sgr (encodeMouseEvent .sgr
      (mouseEventCode action (modifierBits shift alt ctrl)) col row) =
      some (told true action shift alt ctrl col row) := by
  generalize same : mouseEventCode action (modifierBits shift alt ctrl) = code
  have named := @heard_button action shift alt ctrl col row read
  simp only [same] at named
  rw [encode_sgr, decodeMouse, decodeSgr, readNumber_decimal _ (by decide)]
  simp only
  rw [readNumber_decimal _ (by decide)]
  simp only
  rw [readNumber_decimal _ (by cases code.release <;> decide)]
  cases released : code.release <;> rw [released] at named <;> simp [named]

theorem decode_default (read : FieldsRead action shift alt ctrl) :
    decodeMouse .default (encodeMouseEvent .default
      (mouseEventCode action (modifierBits shift alt ctrl)) col row) =
      some (told false action shift alt ctrl (min col 223) (min row 223)) := by
  have named := @heard_legacyButton action shift alt ctrl (min col 223) (min row 223) read
  have coordinate : ∀ coord, (defaultMouseCoord coord - 32).toNat = min coord 223 := by
    intro coord
    rw [defaultMouseCoord, UInt8.add_sub_cancel, UInt8.toNat_ofNat', Nat.mod_eq_of_lt (by omega)]
  simp only [encodeMouseEvent, escapeByte, ascii]
  simp [decodeMouse, decodeDefault, coordinate]
  exact named

theorem readCodePoint_coord {coord : Nat} (small : coord + 32 < 0x800) (rest : Bytes) :
    readCodePoint (utf8MouseCoord coord ++ rest) = some (coord + 32, rest) := by
  have valid : (coord + 32).isValidChar := Or.inl (by omega)
  have value : (Char.ofNatAux (coord + 32) valid).val.toNat = coord + 32 := by
    simp [Char.ofNatAux]
    omega
  rw [utf8MouseCoord, dif_pos valid, String.utf8EncodeChar, value]
  by_cases short : coord + 32 ≤ 0x7f
  · have ascii : UInt8.ofNat (coord + 32) < 0x80 ∧ (UInt8.ofNat (coord + 32)).toNat = coord + 32 := by
      rw [UInt8.lt_iff_toNat_lt, UInt8.toNat_ofNat', Nat.mod_eq_of_lt (by omega)]
      exact ⟨Nat.lt_succ_of_le short, rfl⟩
    rw [if_pos short]
    simp only [List.cons_append, List.nil_append, readCodePoint, ascii, if_true]
  · have lead : (UInt8.ofNat ((coord + 32) / 64 % 0x20 + 0xc0)).toNat =
        (coord + 32) / 64 + 0xc0 := by
      rw [UInt8.toNat_ofNat']
      omega
    have next : (UInt8.ofNat ((coord + 32) % 0x40 + 0x80)).toNat =
        (coord + 32) % 0x40 + 0x80 := by
      rw [UInt8.toNat_ofNat']
      omega
    rw [if_neg short, if_pos (by omega)]
    simp only [List.cons_append, List.nil_append, readCodePoint]
    simp only [UInt8.lt_iff_toNat_lt, UInt8.le_iff_toNat_le, lead, next]
    rw [if_neg (by simp), if_pos (by simp; omega)]
    simp
    omega

/-- Where the field fits below the bytes that are not ASCII, so does the byte sent for it. -/
theorem field_sum {field : UInt8} (small : field < 96) :
    (field + 32).toNat = field.toNat + 32 ∧ field.toNat < 96 := by
  rw [UInt8.lt_iff_toNat_lt] at small
  rw [UInt8.toNat_add]
  simp at small ⊢
  omega

theorem FieldsRead.small (read : FieldsRead action shift alt ctrl) :
    (mouseEventCode action (modifierBits shift alt ctrl)).legacyButton < 96 := by
  obtain ⟨-, -, modifiers⟩ := read
  exact (modifiers _ (List.mem_cons_of_mem _ List.mem_cons_self)).2.2.2

theorem decode_utf8 (read : FieldsRead action shift alt ctrl) (cols : col ≤ maxScreenCols)
    (rows : row ≤ maxScreenRows) :
    decodeMouse .utf8 (encodeMouseEvent .utf8
      (mouseEventCode action (modifierBits shift alt ctrl)) col row) =
      some (told false action shift alt ctrl col row) := by
  have named := @heard_legacyButton action shift alt ctrl col row read
  have small := read.small
  simp only [maxScreenCols, maxScreenRows] at cols rows
  generalize mouseEventCode action (modifierBits shift alt ctrl) = code at named small
  obtain ⟨sum, small⟩ := field_sum small
  have field : ∀ rest : Bytes, readCodePoint ((code.legacyButton + 32) :: rest) =
      some (code.legacyButton.toNat + 32, rest) := by
    intro rest
    have one : code.legacyButton + 32 < 0x80 := by
      rw [UInt8.lt_iff_toNat_lt, sum]
      simp
      omega
    simp only [readCodePoint]
    rw [if_pos one, sum]
  have text : encodeMouseEvent .utf8 code col row = 0x1b :: 0x5b :: 0x4d ::
      ((code.legacyButton + 32) :: (utf8MouseCoord col ++ (utf8MouseCoord row ++ []))) := by
    simp [encodeMouseEvent, escapeByte, ascii]
  rw [text, decodeMouse, decodeUtf8, field]
  simp only
  rw [@readCodePoint_coord col (by omega)]
  simp only
  rw [@readCodePoint_coord row (by omega)]
  simpa using named

theorem legal_sgr (code : MouseEventCode) (col row : Nat) :
    LegalReport .sgr (encodeMouseEvent .sgr code col row) := by
  have printable : ∀ number, ∀ byte ∈ decimal number, 0x20 ≤ byte ∧ byte ≤ 0x7e := by
    intro number byte member
    have digit := decimal_digits number byte member
    simp only [isDigit, decide_eq_true_eq] at digit
    grind
  refine ⟨_, encode_sgr code col row, ?_⟩
  simp only [List.forall_mem_cons, List.forall_mem_append]
  refine ⟨by decide, by decide, printable _, by decide, printable _, by decide, printable _, ?_⟩
  cases code.release <;> simp

theorem legal_default (read : FieldsRead action shift alt ctrl) :
    LegalReport .default (encodeMouseEvent .default
      (mouseEventCode action (modifierBits shift alt ctrl)) col row) := by
  have small := read.small
  generalize mouseEventCode action (modifierBits shift alt ctrl) = code at small
  obtain ⟨sum, -⟩ := field_sum small
  have coordinate : ∀ coord, 0x20 ≤ defaultMouseCoord coord := by
    intro coord
    rw [UInt8.le_iff_toNat_le, defaultMouseCoord, UInt8.toNat_add, UInt8.toNat_ofNat']
    simp
    omega
  have field : 0x20 ≤ code.legacyButton + 32 := by
    rw [UInt8.le_iff_toNat_le, sum]
    simp
  refine ⟨0x5b :: 0x4d :: [code.legacyButton + 32, defaultMouseCoord col, defaultMouseCoord row],
    by simp [encodeMouseEvent, ascii], ?_⟩
  simp only [List.forall_mem_cons]
  exact ⟨by decide, by decide, field, coordinate col, coordinate row, by simp⟩

theorem legal_utf8 (read : FieldsRead action shift alt ctrl) (cols : col ≤ maxScreenCols)
    (rows : row ≤ maxScreenRows) :
    LegalReport .utf8 (encodeMouseEvent .utf8
      (mouseEventCode action (modifierBits shift alt ctrl)) col row) := by
  have small := read.small
  simp only [maxScreenCols, maxScreenRows] at cols rows
  generalize mouseEventCode action (modifierBits shift alt ctrl) = code at small
  obtain ⟨sum, small⟩ := field_sum small
  have named : ∀ number (valid : number.isValidChar), number ≤ 1032 →
      (Char.ofNatAux number valid).val.toNat = number := by
    intro number valid bounded
    simp [Char.ofNatAux]
  have visible : ∀ number (valid : number.isValidChar), number ≤ 1032 → 0x20 ≤ number →
      ' ' ≤ Char.ofNatAux number valid := by
    intro number valid bounded large
    rw [Char.le_def, UInt32.le_iff_toNat_le, named number valid bounded]
    exact large
  have valid : ∀ number, number ≤ 1032 → number.isValidChar :=
    fun number bounded => Or.inl (by omega)
  have field : [code.legacyButton + 32] = String.utf8EncodeChar
      (Char.ofNatAux (code.legacyButton.toNat + 32) (valid _ (by omega))) := by
    rw [String.utf8EncodeChar, named _ _ (by omega), if_pos (by omega), ← sum, UInt8.ofNat_toNat]
  have coordinate : ∀ coord (small : coord ≤ 1000), utf8MouseCoord coord =
      String.utf8EncodeChar (Char.ofNatAux (coord + 32) (valid _ (by omega))) := by
    intro coord small
    rw [utf8MouseCoord, dif_pos]
  refine ⟨['[', 'M', Char.ofNatAux (code.legacyButton.toNat + 32) (valid _ (by omega)),
    Char.ofNatAux (col + 32) (valid _ (by omega)), Char.ofNatAux (row + 32) (valid _ (by omega))],
    ?_, ?_⟩
  · have bytes : String.utf8EncodeChar '[' = [0x5b] ∧ String.utf8EncodeChar 'M' = [0x4d] := by decide
    simp only [List.flatMap_cons, List.flatMap_nil, bytes, ← field, ← coordinate col cols,
      ← coordinate row rows]
    simp [encodeMouseEvent, ascii]
  · simp only [List.forall_mem_cons]
    exact ⟨by decide, by decide, visible _ _ (by omega) (by omega),
      visible _ _ (by omega) (by omega), visible _ _ (by omega) (by omega), by simp⟩

/-- A program is told of exactly the events its mode asks for, and reads each as it was, but for
what its encoding or mode cannot say. -/
theorem mouse_reports_decode (mode : MouseProtocolMode) (encoding : MouseProtocolEncoding)
    {report : PtyMouseReport} (within : report.Within) :
    ((mouseReportBytes mode encoding report).isSome ↔ mode.Wants report.action) ∧
      ∀ bytes, mouseReportBytes mode encoding report = some bytes →
        decodeMouse encoding bytes = some (toBeHeard mode encoding report) ∧
          LegalReport encoding bytes := by
  obtain ⟨⟨colFrom, colTo⟩, rowFrom, rowTo⟩ := within
  have cell : max report.col 1 = report.col ∧ max report.row 1 = report.row :=
    ⟨Nat.max_eq_left colFrom, Nat.max_eq_left rowFrom⟩
  rw [← isWantedIn_iff, mouseReportBytes]
  cases wanted : report.action.isWantedIn mode with
  | false => simp
  | true =>
    refine ⟨by simp, ?_⟩
    rintro bytes ⟨⟩
    rw [cell.1, cell.2]
    have modifiers : (if mode = .press then 0
        else modifierBits report.shift report.alt report.ctrl) =
        modifierBits (mode ≠ .press && report.shift) (mode ≠ .press && report.alt)
          (mode ≠ .press && report.ctrl) := by
      cases mode <;> simp [modifierBits]
    rw [modifiers]
    have read : FieldsRead report.action _ _ _ := fieldsRead wanted (mode ≠ .press && report.shift)
      (mode ≠ .press && report.alt) (mode ≠ .press && report.ctrl)
    cases encoding with
    | sgr => exact ⟨decode_sgr read, legal_sgr _ _ _⟩
    | utf8 => exact ⟨decode_utf8 read colTo rowTo, legal_utf8 read colTo rowTo⟩
    | default => exact ⟨decode_default read, legal_default read⟩

/-- A press with Ctrl at the far corner of a wide screen. -/
def cornerPress : PtyMouseReport := ⟨.press .left, 1000, 200, false, false, true⟩

theorem mouse_reports_decode_corner :
    ((mouseReportBytes .anyMotion .utf8 cornerPress).isSome ↔
        MouseProtocolMode.anyMotion.Wants cornerPress.action) ∧
      ∀ bytes, mouseReportBytes .anyMotion .utf8 cornerPress = some bytes →
        decodeMouse .utf8 bytes = some (toBeHeard .anyMotion .utf8 cornerPress) ∧
          LegalReport .utf8 bytes :=
  mouse_reports_decode .anyMotion .utf8 ⟨⟨by decide, by decide⟩, by decide, by decide⟩

/-- The oldest mode is told nothing of the modifiers. -/
theorem modifiers_lost :
    (mouseReportBytes .press .sgr cornerPress).bind (decodeMouse .sgr) =
        some ⟨.press .left, false, false, false, 1000, 200⟩ ∧
      cornerPress.ctrl = true := by
  decide

end Mult.Terminal
