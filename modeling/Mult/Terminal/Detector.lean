import Mult.Protocol.Messages

/-! The detector that finds terminal queries in the output of a pane, one byte at a time.

The bytes of a control sequence are kept as the list of those stored so far.
-/

set_option autoImplicit false

namespace Mult.Terminal
open Protocol

def terminalMaxCsiSequenceBytes : Nat := 128
def focusReportingMode : Nat := 1004
def alternateScrollMode : Nat := 1007

def escapeByte : UInt8 := 0x1b

def primaryDeviceAttributesResponse : Bytes := escapeByte :: ascii "[?1;2c"
def deviceStatusOkResponse : Bytes := escapeByte :: ascii "[0n"

inductive TerminalResponseState where
  | ground
  | escape
  | csi
  | csiIgnored
  | string (escSeen : Bool)
  | ignoreOne
  deriving DecidableEq, Repr

structure TerminalResponseDetector where
  state : TerminalResponseState
  focusReporting : Bool
  alternateScroll : Bool
  csi : Bytes
  deriving DecidableEq, Repr

def TerminalResponseDetector.default : TerminalResponseDetector := ⟨.ground, false, false, []⟩

/-- A query that was recognised, before its answer is built. -/
inductive TerminalQuery where
  | device (bytes : Bytes)
  | cursorPosition (decPrivate : Bool)
  deriving DecidableEq, Repr

def isDigit (byte : UInt8) : Bool := 0x30 ≤ byte ∧ byte ≤ 0x39

def digitsValue (digits : Bytes) : Nat :=
  digits.foldl (fun value digit => value * 10 + (digit.toNat - 0x30)) 0

/-- `str::parse` of digits, which fails on a number that is too large for a word. -/
def parseUsize (digits : Bytes) : Option Nat :=
  let value := digitsValue digits
  if value < u64Bound then some value else none

/-- The numbers in a sequence. Bytes that are no digits, and so all that are no ASCII, only
separate. -/
def parseCsiParams (sequence : Bytes) : List Nat :=
  ((sequence.splitOnP fun byte => !isDigit byte).filter (· ≠ [])).filterMap parseUsize

def paramOrDefault (params : List Nat) (index fallback : Nat) : Nat :=
  (params[index]?.filter (· > 0)).getD fallback

def questionMark : UInt8 := 0x3f

def csiTerminalQuery (sequence : Bytes) (final : UInt8) : Option TerminalQuery :=
  let decPrivate := sequence.contains questionMark
  let params := parseCsiParams sequence
  -- `c`, then `n`
  if final = 0x63 then
    if !decPrivate && paramOrDefault params 0 0 = 0 then
      some (.device primaryDeviceAttributesResponse)
    else none
  else if final = 0x6e then
    if !decPrivate then
      match paramOrDefault params 0 0 with
      | 5 => some (.device deviceStatusOkResponse)
      | 6 => some (.cursorPosition false)
      | _ => none
    else if paramOrDefault params 0 0 = 6 then some (.cursorPosition true)
    else none
  else none

/-- The byte ends a control sequence. -/
def isFinal (byte : UInt8) : Bool := 0x40 ≤ byte ∧ byte ≤ 0x7e

namespace TerminalResponseDetector

def isGround (detector : TerminalResponseDetector) : Bool := detector.state = .ground

def setMode (on : Bool) (detector : TerminalResponseDetector) (mode : Nat) :
    TerminalResponseDetector :=
  if mode = focusReportingMode then { detector with focusReporting := on }
  else if mode = alternateScrollMode then { detector with alternateScroll := on }
  else detector

/-- The private modes that are set (`h`) or reset (`l`) by the sequence read. -/
def observeModeChange (detector : TerminalResponseDetector) (final : UInt8) :
    TerminalResponseDetector :=
  if final = 0x68 ∨ final = 0x6c then
    if detector.csi.contains questionMark then
      (parseCsiParams detector.csi).foldl (setMode (final = 0x68)) detector
    else detector
  else detector

def enter (detector : TerminalResponseDetector) (state : TerminalResponseState) :
    TerminalResponseDetector :=
  { detector with state := state }

def advance (detector : TerminalResponseDetector) (byte : UInt8) :
    TerminalResponseDetector × Option TerminalQuery :=
  match detector.state with
  | .ground => (detector.enter (if byte = escapeByte then .escape else .ground), none)
  | .escape =>
    -- `c`: a full reset
    if byte = 0x63 then
      ({ detector with focusReporting := false, alternateScroll := false, state := .ground }, none)
    -- `[`
    else if byte = 0x5b then ({ detector with csi := [], state := .csi }, none)
    -- `]`, `P`, `_`, `^`, `X`
    else if byte = 0x5d ∨ byte = 0x50 ∨ byte = 0x5f ∨ byte = 0x5e ∨ byte = 0x58 then
      (detector.enter (.string false), none)
    -- `(`, `)`, `*`, `+`
    else if byte = 0x28 ∨ byte = 0x29 ∨ byte = 0x2a ∨ byte = 0x2b then
      (detector.enter .ignoreOne, none)
    -- `Z`
    else if byte = 0x5a then
      (detector.enter .ground, some (.device primaryDeviceAttributesResponse))
    else (detector.enter .ground, none)
  | .csi =>
    if isFinal byte then
      ((detector.observeModeChange byte).enter .ground, csiTerminalQuery detector.csi byte)
    else if terminalMaxCsiSequenceBytes ≤ detector.csi.length then
      (detector.enter .csiIgnored, none)
    else ({ detector with csi := detector.csi ++ [byte] }, none)
  | .csiIgnored => (detector.enter (if isFinal byte then .ground else .csiIgnored), none)
  | .string escSeen =>
    if byte = 0x07 ∨ (escSeen ∧ byte = 0x5c) then (detector.enter .ground, none)
    else (detector.enter (.string (byte = escapeByte)), none)
  | .ignoreOne => (detector.enter .ground, none)

theorem isGround_of_query {detector : TerminalResponseDetector} {byte : UInt8}
    {query : TerminalQuery} (found : (detector.advance byte).2 = some query) :
    (detector.advance byte).1.isGround = true := by
  unfold advance at found ⊢
  cases state : detector.state with
  | escape =>
    simp only [state] at found ⊢
    split_ifs at found ⊢
    rfl
  | csi =>
    simp only [state] at found ⊢
    split_ifs at found ⊢
    rfl
  | ground => simp [state] at found
  | csiIgnored => simp [state] at found
  | string escSeen =>
    simp only [state] at found
    split_ifs at found
  | ignoreOne => simp [state] at found

theorem advance_ground {detector : TerminalResponseDetector} {byte : UInt8}
    (ground : detector.isGround = true) (text : byte ≠ escapeByte) :
    detector.advance byte = (detector, none) := by
  obtain ⟨state, focusReporting, alternateScroll, csi⟩ := detector
  cases of_decide_eq_true ground
  simp [advance, enter, text]

end TerminalResponseDetector

end Mult.Terminal
