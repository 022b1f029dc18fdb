import Mult.Terminal.Detector

/-! A standard parser of terminal output, as far as queries, the two private modes and full
resets go: what the detector is compared with, not translated from the source.

An escape byte starts a new sequence anywhere, `CAN` and `SUB` abort one. Output is UTF-8, so
bytes from 0x80 on are never controls.
-/

set_option autoImplicit false

namespace Mult.Terminal
open Protocol

/-- How strings (titles, device control) end: at any escape, `CAN` or `SUB`, and titles at `BEL`;
or only at `BEL` or the terminator `ESC \`. -/
inductive StringRule where
  | standard
  | terminatorOnly
  deriving DecidableEq, Repr

inductive VtState where
  | ground
  | escape
  | escapeIntermediate (collected : Bytes)
  /-- Within a control sequence: all bytes since the bracket. -/
  | csi (seen : Bytes)
  | string (bellEnds escSeen : Bool)
  deriving DecidableEq, Repr

structure VtParser where
  state : VtState
  focusReporting : Bool
  alternateScroll : Bool
  deriving DecidableEq, Repr

def VtParser.initial : VtParser := ⟨.ground, false, false⟩

/-- A control sequence: its private marker, parameters and intermediates. -/
structure ControlSequence where
  marker : Option UInt8
  params : List Nat
  intermediates : Bytes
  deriving DecidableEq, Repr

def isMarker (byte : UInt8) : Bool := 0x3c ≤ byte ∧ byte ≤ 0x3f
def isIntermediate (byte : UInt8) : Bool := 0x20 ≤ byte ∧ byte ≤ 0x2f
def semicolon : UInt8 := 0x3b
def isParam (byte : UInt8) : Bool := isDigit byte || byte = semicolon

def unmarked (seen : Bytes) : Bytes := if (seen.head?.map isMarker).getD false then seen.tail else seen

/-- Controls within a sequence and bytes that are no ASCII are no part of it; a sequence that is
malformed is none. -/
def readCsi (seen : Bytes) : Option ControlSequence :=
  let collected := seen.filter fun byte => 0x20 ≤ byte ∧ byte ≤ 0x3f
  let rest := unmarked collected
  let intermediates := rest.dropWhile isParam
  if intermediates.all isIntermediate then
    some
      { marker := collected.head?.filter isMarker
        params := ((rest.takeWhile isParam).splitOn semicolon).map digitsValue
        intermediates := intermediates }
  else none

namespace ControlSequence

/-- The device query that a sequence is: primary attributes, status, or a position report. -/
def query (sequence : ControlSequence) (final : UInt8) : Option TerminalQuery :=
  let first := sequence.params.headD 0
  if sequence.intermediates ≠ [] then none
  else if sequence.marker = none then
    if final = 0x63 ∧ first = 0 then some (.device primaryDeviceAttributesResponse)
    else if final = 0x6e ∧ first = 5 then some (.device deviceStatusOkResponse)
    else if final = 0x6e ∧ first = 6 then some (.cursorPosition false)
    else none
  else if sequence.marker = some questionMark ∧ final = 0x6e ∧ first = 6 then
    some (.cursorPosition true)
  else none

def privateModes (sequence : ControlSequence) (final : UInt8) : List Nat :=
  if sequence.intermediates = [] ∧ sequence.marker = some questionMark ∧
      (final = 0x68 ∨ final = 0x6c) then sequence.params
  else []

end ControlSequence

namespace VtParser

def enter (parser : VtParser) (state : VtState) : VtParser := { parser with state := state }

def setMode (on : Bool) (parser : VtParser) (mode : Nat) : VtParser :=
  if mode = focusReportingMode then { parser with focusReporting := on }
  else if mode = alternateScrollMode then { parser with alternateScroll := on }
  else parser

/-- The end of a control sequence. -/
def dispatch (parser : VtParser) (seen : Bytes) (final : UInt8) :
    VtParser × Option TerminalQuery :=
  match readCsi seen with
  | none => (parser.enter .ground, none)
  | some sequence =>
    (((sequence.privateModes final).foldl (setMode (final = 0x68)) parser).enter .ground,
      sequence.query final)

def stringByte (rule : StringRule) (bellEnds escSeen : Bool) (byte : UInt8) : VtState :=
  match rule with
  | .standard =>
    if byte = escapeByte then .escape
    else if byte = 0x18 ∨ byte = 0x1a ∨ (bellEnds ∧ byte = 0x07) then .ground
    else .string bellEnds false
  | .terminatorOnly =>
    if byte = 0x07 ∨ (escSeen ∧ byte = 0x5c) then .ground
    else .string bellEnds (byte = escapeByte)

/-- One byte outside of strings that is neither an escape nor aborts a sequence. -/
def plainByte (parser : VtParser) (byte : UInt8) : VtParser × Option TerminalQuery :=
  match parser.state with
  | .ground | .string _ _ => (parser, none)
  | .escape =>
    if isIntermediate byte then (parser.enter (.escapeIntermediate [byte]), none)
    else if byte = 0x63 then
      ({ parser with focusReporting := false, alternateScroll := false, state := .ground }, none)
    else if byte = 0x5b then (parser.enter (.csi []), none)
    else if byte = 0x5d then (parser.enter (.string true false), none)
    else if byte = 0x50 ∨ byte = 0x5f ∨ byte = 0x5e ∨ byte = 0x58 then
      (parser.enter (.string false false), none)
    else if byte = 0x5a then
      (parser.enter .ground, some (.device primaryDeviceAttributesResponse))
    else if 0x30 ≤ byte ∧ byte ≤ 0x7e then (parser.enter .ground, none)
    else (parser, none)
  | .escapeIntermediate collected =>
    if isIntermediate byte then (parser.enter (.escapeIntermediate (collected ++ [byte])), none)
    else if 0x30 ≤ byte ∧ byte ≤ 0x7e then (parser.enter .ground, none)
    else (parser, none)
  | .csi seen =>
    if isFinal byte then parser.dispatch seen byte
    else (parser.enter (.csi (seen ++ [byte])), none)

def step (rule : StringRule) (parser : VtParser) (byte : UInt8) :
    VtParser × Option TerminalQuery :=
  match parser.state with
  | .string bellEnds escSeen => (parser.enter (stringByte rule bellEnds escSeen byte), none)
  | _ =>
    if byte = escapeByte then (parser.enter .escape, none)
    else if byte = 0x18 ∨ byte = 0x1a then (parser.enter .ground, none)
    else parser.plainByte byte

end VtParser

/-- What a byte shows: the query it completes, and the modes behind it. -/
structure Shown where
  query : Option TerminalQuery
  focusReporting : Bool
  alternateScroll : Bool
  deriving DecidableEq, Repr

def VtParser.shows (rule : StringRule) (parser : VtParser) : Bytes → List Shown
  | [] => []
  | byte :: rest =>
      let (parser, query) := parser.step rule byte
      ⟨query, parser.focusReporting, parser.alternateScroll⟩ :: parser.shows rule rest

def TerminalResponseDetector.shows (detector : TerminalResponseDetector) : Bytes → List Shown
  | [] => []
  | byte :: rest =>
      let (detector, query) := detector.advance byte
      ⟨query, detector.focusReporting, detector.alternateScroll⟩ :: detector.shows rest

end Mult.Terminal
