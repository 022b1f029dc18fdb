import Mult.Terminal.StandardParser

/-! How the detector stands to a standard parser, apart from how strings end. Where both stand
alike they show the same on every byte but those that interrupt a sequence or end one that is read
otherwise; and whatever came before, they stand alike again by the next final byte that leaves the
parser at ground.
-/

set_option autoImplicit false

namespace Mult.Terminal
open Protocol

/-! ## What a control sequence asks for -/

/-- The query that a control sequence makes, and which of the two modes it names. -/
structure Request where
  query : Option TerminalQuery
  focusReporting : Bool
  alternateScroll : Bool
  deriving DecidableEq, Repr

def Request.of (query : Option TerminalQuery) (modes : List Nat) : Request :=
  ⟨query, modes.contains focusReportingMode, modes.contains alternateScrollMode⟩

/-- As the detector reads the sequence: one that is too long asks for nothing. -/
def detectedRequest (seen : Bytes) (final : UInt8) : Request :=
  if terminalMaxCsiSequenceBytes < seen.length then .of none []
  else .of (csiTerminalQuery seen final)
    (if (final = 0x68 ∨ final = 0x6c) ∧ seen.contains questionMark then parseCsiParams seen else [])

/-- As the standard parser does: one that is malformed asks for nothing. -/
def standardRequest (seen : Bytes) (final : UInt8) : Request :=
  match readCsi seen with
  | none => .of none []
  | some sequence => .of (sequence.query final) (sequence.privateModes final)

/-- What the end of the sequence shows. -/
def Request.shown (request : Request) (final : UInt8) (focus scroll : Bool) : Shown :=
  ⟨request.query, if request.focusReporting then final = 0x68 else focus,
    if request.alternateScroll then final = 0x68 else scroll⟩

theorem VtParser.foldl_setMode (on : Bool) (modes : List Nat) (parser : VtParser) :
    modes.foldl (setMode on) parser =
      ⟨parser.state, if modes.contains focusReportingMode then on else parser.focusReporting,
        if modes.contains alternateScrollMode then on else parser.alternateScroll⟩ := by
  have apart : alternateScrollMode ≠ focusReportingMode := by decide
  induction modes generalizing parser with
  | nil => rfl
  | cons mode rest ih =>
    rw [List.foldl_cons, ih, List.contains_cons, List.contains_cons, setMode]
    by_cases focus : mode = focusReportingMode
    · subst focus
      simp [apart]
    · by_cases scroll : mode = alternateScrollMode
      · subst scroll
        simp [apart.symm, apart]
      · simp [focus, scroll, Ne.symm focus, Ne.symm scroll]

theorem TerminalResponseDetector.foldl_setMode (on : Bool) (modes : List Nat)
    (detector : TerminalResponseDetector) : modes.foldl (setMode on) detector =
      ⟨detector.state, if modes.contains focusReportingMode then on else detector.focusReporting,
        if modes.contains alternateScrollMode then on else detector.alternateScroll,
        detector.csi⟩ := by
  have apart : alternateScrollMode ≠ focusReportingMode := by decide
  induction modes generalizing detector with
  | nil => rfl
  | cons mode rest ih =>
    rw [List.foldl_cons, ih, List.contains_cons, List.contains_cons, setMode]
    by_cases focus : mode = focusReportingMode
    · subst focus
      simp [apart]
    · by_cases scroll : mode = alternateScrollMode
      · subst scroll
        simp [apart.symm, apart]
      · simp [focus, scroll, Ne.symm focus, Ne.symm scroll]

section
variable {focus scroll : Bool} {seen csi : Bytes} {byte : UInt8}

theorem not_aborting_of_final (final : isFinal byte = true) :
    byte ≠ escapeByte ∧ byte ≠ 0x18 ∧ byte ≠ 0x1a := by
  grind [isFinal, escapeByte]

theorem step_final (final : isFinal byte = true) :
    VtParser.step .terminatorOnly ⟨.csi seen, focus, scroll⟩ byte =
      let shown := (standardRequest seen byte).shown byte focus scroll
      (⟨.ground, shown.focusReporting, shown.alternateScroll⟩, shown.query) := by
  have alive := not_aborting_of_final final
  have read : VtParser.step .terminatorOnly ⟨.csi seen, focus, scroll⟩ byte =
      VtParser.dispatch ⟨.csi seen, focus, scroll⟩ seen byte := by
    simp [VtParser.step, VtParser.plainByte, alive, final]
  rw [read, VtParser.dispatch, standardRequest]
  cases readCsi seen with
  | none => rfl
  | some sequence =>
    dsimp only
    rw [VtParser.foldl_setMode]
    rfl

theorem advance_final (final : isFinal byte = true)
    (short : seen.length ≤ terminalMaxCsiSequenceBytes) :
    TerminalResponseDetector.advance ⟨.csi, focus, scroll, seen⟩ byte =
      let shown := (detectedRequest seen byte).shown byte focus scroll
      (⟨.ground, shown.focusReporting, shown.alternateScroll, seen⟩, shown.query) := by
  have changes : TerminalResponseDetector.observeModeChange ⟨.csi, focus, scroll, seen⟩ byte =
      (if (byte = 0x68 ∨ byte = 0x6c) ∧ seen.contains questionMark then parseCsiParams seen
        else []).foldl (TerminalResponseDetector.setMode (byte = 0x68))
          ⟨.csi, focus, scroll, seen⟩ := by
    rw [TerminalResponseDetector.observeModeChange]
    dsimp only
    by_cases changes : byte = 0x68 ∨ byte = 0x6c
    · rw [if_pos changes]
      by_cases asks : seen.contains questionMark = true
      · rw [if_pos asks, if_pos ⟨changes, asks⟩]
      · rw [if_neg asks, if_neg fun both => asks both.2]
        rfl
    · rw [if_neg changes, if_neg fun both => changes both.1]
      rfl
  simp only [TerminalResponseDetector.advance, if_pos final]
  rw [changes, TerminalResponseDetector.foldl_setMode, detectedRequest,
    if_neg (Nat.not_lt.mpr short)]
  rfl

theorem advance_ignored (final : isFinal byte = true)
    (long : terminalMaxCsiSequenceBytes < seen.length) :
    TerminalResponseDetector.advance ⟨.csiIgnored, focus, scroll, csi⟩ byte =
      let shown := (detectedRequest seen byte).shown byte focus scroll
      (⟨.ground, shown.focusReporting, shown.alternateScroll, csi⟩, shown.query) := by
  simp only [TerminalResponseDetector.advance, TerminalResponseDetector.enter, if_pos final]
  rw [detectedRequest, if_pos long]
  rfl

end

/-- The bytes that name a character set and have one more byte behind them. -/
def charsetDesignators : List UInt8 := [0x28, 0x29, 0x2a, 0x2b]

def InStep (parser : VtState) (detector : TerminalResponseDetector) : Prop :=
  match parser with
  | .ground => detector.state = .ground
  | .escape => detector.state = .escape
  | .escapeIntermediate collected => detector.state = .ground ∨
      (detector.state = .ignoreOne ∧
        collected ∈ charsetDesignators.map fun designator => [designator])
  | .csi seen =>
      (detector.state = .csi ∧ detector.csi = seen ∧
        seen.length ≤ terminalMaxCsiSequenceBytes) ∨
      (detector.state = .csiIgnored ∧ terminalMaxCsiSequenceBytes < seen.length)
  | .string _ escSeen => detector.state = .string escSeen

structure Agree (parser : VtParser) (detector : TerminalResponseDetector) : Prop where
  focusReporting : detector.focusReporting = parser.focusReporting
  alternateScroll : detector.alternateScroll = parser.alternateScroll
  state : InStep parser.state detector

/-- No sequence is interrupted by the byte, and a control sequence that it ends is read alike. -/
def undisturbed (parser : VtState) (detector : TerminalResponseState) (byte : UInt8) : Bool :=
  match parser with
  | .ground | .string _ _ => true
  | .escape => (0x20 ≤ byte ∧ byte ≤ 0x7e) ∨ byte = 0x18 ∨ byte = 0x1a
  | .escapeIntermediate _ => byte ≠ escapeByte ∨ detector = .ground
  | .csi seen =>
    byte ≠ escapeByte ∧ byte ≠ 0x18 ∧ byte ≠ 0x1a ∧
      (isFinal byte = true → detectedRequest seen byte = standardRequest seen byte)

/-- A stream without a byte that disturbs the two as they stand there. -/
def Undisturbed (parser : VtParser) (detector : TerminalResponseDetector) : Bytes → Prop
  | [] => True
  | byte :: rest =>
      undisturbed parser.state detector.state byte = true ∧
        Undisturbed (parser.step .terminatorOnly byte).1 (detector.advance byte).1 rest

instance (parser : VtParser) (detector : TerminalResponseDetector) (bytes : Bytes) :
    Decidable (Undisturbed parser detector bytes) := by
  induction bytes generalizing parser detector with
  | nil => exact isTrue trivial
  | cons byte rest ih => exact @instDecidableAnd _ _ inferInstance (ih _ _)

/-- A byte takes both from states that agree to states that agree, with the same query. -/
def StepsAlike (parser : VtParser) (detector : TerminalResponseDetector) (byte : UInt8) : Prop :=
  Agree (parser.step .terminatorOnly byte).1 (detector.advance byte).1 ∧
    (parser.step .terminatorOnly byte).2 = (detector.advance byte).2

/-! ## One byte -/

section
variable {focus scroll : Bool} {csi : Bytes} {byte : UInt8}

theorem alike_ground :
    StepsAlike ⟨.ground, focus, scroll⟩ ⟨.ground, focus, scroll, csi⟩ byte := by
  unfold StepsAlike
  simp only [VtParser.step, VtParser.plainByte, VtParser.enter, TerminalResponseDetector.advance,
    TerminalResponseDetector.enter]
  by_cases escape : byte = escapeByte
  · rw [if_pos escape, if_pos escape]
    exact ⟨⟨rfl, rfl, rfl⟩, rfl⟩
  · rw [if_neg escape, if_neg escape]
    split <;> exact ⟨⟨rfl, rfl, rfl⟩, rfl⟩

theorem alike_string (bellEnds escSeen : Bool) :
    StepsAlike ⟨.string bellEnds escSeen, focus, scroll⟩
      ⟨.string escSeen, focus, scroll, csi⟩ byte := by
  unfold StepsAlike
  simp only [VtParser.step, VtParser.stringByte, VtParser.enter, TerminalResponseDetector.advance,
    TerminalResponseDetector.enter]
  split <;> exact ⟨⟨rfl, rfl, rfl⟩, rfl⟩

/-- The bytes behind an escape that the detector tells apart. -/
def escapeBytes : List UInt8 :=
  [0x63, 0x5b, 0x5d, 0x50, 0x5f, 0x5e, 0x58, 0x28, 0x29, 0x2a, 0x2b, 0x5a]

theorem advance_escape_other (other : byte ∉ escapeBytes) :
    TerminalResponseDetector.advance ⟨.escape, focus, scroll, csi⟩ byte =
      (⟨.ground, focus, scroll, csi⟩, none) := by
  simp only [escapeBytes, List.mem_cons, List.not_mem_nil, or_false, not_or] at other
  simp [TerminalResponseDetector.advance, TerminalResponseDetector.enter, other]

theorem alike_escape {detector : TerminalResponseState}
    (plain : undisturbed .escape detector byte = true) :
    StepsAlike ⟨.escape, focus, scroll⟩ ⟨.escape, focus, scroll, csi⟩ byte := by
  have range := of_decide_eq_true plain
  by_cases told : byte ∈ escapeBytes
  · simp only [escapeBytes, List.mem_cons, List.not_mem_nil, or_false] at told
    rcases told with rfl | rfl | rfl | rfl | rfl | rfl | rfl | rfl | rfl | rfl | rfl | rfl
    all_goals first
      | exact ⟨⟨rfl, rfl, rfl⟩, rfl⟩
      | exact ⟨⟨rfl, rfl, .inl ⟨rfl, rfl, by decide⟩⟩, rfl⟩
      | exact ⟨⟨rfl, rfl, .inr ⟨rfl, by decide⟩⟩, rfl⟩
  · unfold StepsAlike
    rw [advance_escape_other told]
    simp only [escapeBytes, List.mem_cons, List.not_mem_nil, or_false, not_or] at told
    by_cases aborts : byte = 0x18 ∨ byte = 0x1a
    · rcases aborts with rfl | rfl <;> exact ⟨⟨rfl, rfl, rfl⟩, rfl⟩
    · have escape : byte ≠ escapeByte := by grind [escapeByte]
      by_cases inter : isIntermediate byte = true
      · have stepped : VtParser.step .terminatorOnly ⟨.escape, focus, scroll⟩ byte =
            (⟨.escapeIntermediate [byte], focus, scroll⟩, none) := by
          simp [VtParser.step, VtParser.plainByte, VtParser.enter, escape, aborts, inter]
        rw [stepped]
        exact ⟨⟨rfl, rfl, .inl rfl⟩, rfl⟩
      · have final : 0x30 ≤ byte ∧ byte ≤ 0x7e := by grind [isIntermediate]
        have stepped : VtParser.step .terminatorOnly ⟨.escape, focus, scroll⟩ byte =
            (⟨.ground, focus, scroll⟩, none) := by
          simp [VtParser.step, VtParser.plainByte, VtParser.enter, escape, aborts, inter, told,
            final]
        rw [stepped]
        exact ⟨⟨rfl, rfl, rfl⟩, rfl⟩

/-- Behind an intermediate nothing is asked; the detector is at ground, or about to be. -/
theorem alike_intermediate {collected : Bytes} {state : TerminalResponseState}
    (plain : undisturbed (.escapeIntermediate collected) state byte = true)
    (stands : state = .ground ∨ state = .ignoreOne) :
    StepsAlike ⟨.escapeIntermediate collected, focus, scroll⟩ ⟨state, focus, scroll, csi⟩ byte := by
  have spared := of_decide_eq_true plain
  unfold StepsAlike
  by_cases escape : byte = escapeByte
  · obtain rfl := spared.resolve_left (not_not.mpr escape)
    subst escape
    exact ⟨⟨rfl, rfl, rfl⟩, rfl⟩
  · have back : TerminalResponseDetector.advance ⟨state, focus, scroll, csi⟩ byte =
        (⟨.ground, focus, scroll, csi⟩, none) := by
      rcases stands with rfl | rfl
      · simp [TerminalResponseDetector.advance, TerminalResponseDetector.enter, escape]
      · rfl
    rw [back]
    simp only [VtParser.step, VtParser.plainByte, VtParser.enter, if_neg escape]
    split_ifs
    · exact ⟨⟨rfl, rfl, rfl⟩, rfl⟩
    · exact ⟨⟨rfl, rfl, .inl rfl⟩, rfl⟩
    · exact ⟨⟨rfl, rfl, rfl⟩, rfl⟩
    · exact ⟨⟨rfl, rfl, .inl rfl⟩, rfl⟩

theorem alike_within {seen : Bytes} {state : TerminalResponseState}
    (stands : (state = .csi ∧ csi = seen ∧ seen.length ≤ terminalMaxCsiSequenceBytes) ∨
      (state = .csiIgnored ∧ terminalMaxCsiSequenceBytes < seen.length))
    (within : isFinal byte = false) (alive : byte ≠ escapeByte ∧ byte ≠ 0x18 ∧ byte ≠ 0x1a) :
    StepsAlike ⟨.csi seen, focus, scroll⟩ ⟨state, focus, scroll, csi⟩ byte := by
  have onward : VtParser.step .terminatorOnly ⟨.csi seen, focus, scroll⟩ byte =
      (⟨.csi (seen ++ [byte]), focus, scroll⟩, none) := by
    simp [VtParser.step, VtParser.plainByte, VtParser.enter, alive, within]
  have grown : (seen ++ [byte]).length = seen.length + 1 := List.length_append
  unfold StepsAlike
  rw [onward]
  rcases stands with ⟨rfl, rfl, short⟩ | ⟨rfl, long⟩
  · simp only [TerminalResponseDetector.advance, TerminalResponseDetector.enter, within,
      Bool.false_eq_true, if_false]
    split
    · exact ⟨⟨rfl, rfl, .inr ⟨rfl, by omega⟩⟩, rfl⟩
    · exact ⟨⟨rfl, rfl, .inl ⟨rfl, rfl, by omega⟩⟩, rfl⟩
  · simp only [TerminalResponseDetector.advance, TerminalResponseDetector.enter, within,
      Bool.false_eq_true, if_false]
    exact ⟨⟨rfl, rfl, .inr ⟨rfl, by omega⟩⟩, trivial⟩

theorem alike_final {seen : Bytes} {state : TerminalResponseState}
    (stands : (state = .csi ∧ csi = seen ∧ seen.length ≤ terminalMaxCsiSequenceBytes) ∨
      (state = .csiIgnored ∧ terminalMaxCsiSequenceBytes < seen.length))
    (final : isFinal byte = true) (same : detectedRequest seen byte = standardRequest seen byte) :
    StepsAlike ⟨.csi seen, focus, scroll⟩ ⟨state, focus, scroll, csi⟩ byte := by
  unfold StepsAlike
  rw [step_final final, ← same]
  rcases stands with ⟨rfl, rfl, short⟩ | ⟨rfl, long⟩
  · rw [advance_final final short]
    exact ⟨⟨rfl, rfl, rfl⟩, rfl⟩
  · rw [advance_ignored final long]
    exact ⟨⟨rfl, rfl, rfl⟩, rfl⟩

end

theorem Agree.step {parser : VtParser} {detector : TerminalResponseDetector} {byte : UInt8}
    (agree : Agree parser detector)
    (plain : undisturbed parser.state detector.state byte = true) :
    StepsAlike parser detector byte := by
  obtain ⟨state, focus, scroll⟩ := parser
  obtain ⟨stands, focuses, scrolls, csi⟩ := detector
  obtain ⟨sameFocus, sameScroll, same⟩ := agree
  cases sameFocus
  cases sameScroll
  cases state with
  | ground =>
    cases same
    exact alike_ground
  | escape =>
    cases same
    exact alike_escape plain
  | escapeIntermediate collected => exact alike_intermediate plain (same.imp id And.left)
  | string bellEnds escSeen =>
    cases same
    exact alike_string bellEnds escSeen
  | csi seen =>
    obtain ⟨escape, cancel, substitute, request⟩ := of_decide_eq_true plain
    cases final : isFinal byte with
    | false => exact alike_within same final ⟨escape, cancel, substitute⟩
    | true => exact alike_final same final (request final)

/-! ## Control sequences that are read alike -/

/-- The final bytes of the sequences that ask for an answer or change a private mode. -/
def requestFinals : List UInt8 := [0x63, 0x6e, 0x68, 0x6c]

/-- Nothing but a question mark, if anything, and numbers, of which none is left out or too large
for a word. -/
def plainParams (seen : Bytes) : Bool :=
  let fields := if seen.head? = some questionMark then seen.tail else seen
  fields.all isParam && (fields = [] ||
    (fields.splitOn semicolon).all fun field => field ≠ [] && digitsValue field < u64Bound)

theorem splitOnP_congr {B : Type} {first second : B → Bool} {items : List B}
    (same : ∀ item ∈ items, first item = second item) :
    items.splitOnP first = items.splitOnP second := by
  induction items with
  | nil => rfl
  | cons item rest ih =>
    rw [List.splitOnP_cons_eq_if_modifyHead, List.splitOnP_cons_eq_if_modifyHead,
      same item List.mem_cons_self, ih fun other member => same other (List.mem_cons_of_mem _ member)]

/-- What a plain sequence holds behind its question mark, if it has one. -/
structure PlainFields (seen fields : Bytes) (asks : Bool) : Prop where
  split : seen = if asks then questionMark :: fields else fields
  params : ∀ byte ∈ fields, isParam byte = true
  words : fields = [] ∨ ∀ field ∈ fields.splitOn semicolon,
    field ≠ [] ∧ digitsValue field < u64Bound

theorem plainFields_of_plain {seen : Bytes} (plain : plainParams seen = true) :
    ∃ fields asks, PlainFields seen fields asks := by
  simp only [plainParams, Bool.and_eq_true, Bool.or_eq_true, decide_eq_true_eq,
    List.all_eq_true] at plain
  by_cases head : seen.head? = some questionMark
  · rw [if_pos head] at plain
    refine ⟨seen.tail, true, ?_, plain.1, plain.2⟩
    cases seen with
    | nil => cases head
    | cons first rest => rw [Option.some.inj head]; rfl
  · rw [if_neg head] at plain
    exact ⟨seen, false, rfl, plain.1, plain.2⟩

theorem isParam_not_questionMark {byte : UInt8} (param : isParam byte = true) :
    byte ≠ questionMark := by
  rintro rfl
  exact absurd param (by decide)

namespace PlainFields

variable {seen fields : Bytes} {asks : Bool}

theorem contains (plain : PlainFields seen fields asks) :
    seen.contains questionMark = asks := by
  rw [plain.split]
  cases asks with
  | true => simp
  | false =>
    rw [if_neg Bool.false_ne_true, ← Bool.not_eq_true, List.contains_iff_mem]
    exact fun member => isParam_not_questionMark (plain.params _ member) rfl

/-- The numbers as the detector reads them: those of the fields, unless there is none. -/
theorem parseCsiParams_eq (plain : PlainFields seen fields asks) :
    parseCsiParams seen =
      if fields = [] then [] else (fields.splitOn semicolon).map digitsValue := by
  -- Among plain parameters whatever is no digit is a semicolon.
  have separates : ∀ byte ∈ fields, (!isDigit byte) = (byte == semicolon) := by
    intro byte member
    have param := plain.params byte member
    unfold isParam at param
    by_cases same : byte = semicolon
    · subst same
      rfl
    · simp only [same, decide_false, Bool.or_false] at param
      simp [param, same]
  have pieces : parseCsiParams seen =
      ((fields.splitOn semicolon).filter (· ≠ [])).filterMap parseUsize := by
    have split : fields.splitOnP (fun byte => !isDigit byte) = fields.splitOn semicolon :=
      splitOnP_congr separates
    rw [plain.split]
    cases asks with
    | true =>
      rw [if_pos rfl, parseCsiParams, List.splitOnP_cons_eq_if_modifyHead, if_pos (by decide),
        split]
      rfl
    | false => rw [if_neg Bool.false_ne_true, parseCsiParams, split]
  rw [pieces]
  rcases plain.words with none | words
  · rw [if_pos none, none]
    rfl
  · split
    · next none =>
      rw [none]
      rfl
    · have some : (fields.splitOn semicolon).filter (· ≠ []) = fields.splitOn semicolon :=
        List.filter_eq_self.mpr fun field member => decide_eq_true (words field member).1
      rw [some]
      exact List.filterMap_eq_map_iff_forall_eq_some.mpr fun field member =>
        if_pos (words field member).2

theorem first_eq (plain : PlainFields seen fields asks) :
    paramOrDefault (parseCsiParams seen) 0 0 =
      ((fields.splitOn semicolon).map digitsValue).headD 0 := by
  rw [plain.parseCsiParams_eq]
  split
  · next none =>
    rw [none]
    rfl
  · cases (fields.splitOn semicolon).map digitsValue with
    | nil => rfl
    | cons first rest => cases first <;> rfl

theorem isParam_range {byte : UInt8} (param : isParam byte = true) :
    (0x20 ≤ byte ∧ byte ≤ 0x3f) ∧ isMarker byte = false := by
  grind [isParam, isDigit, semicolon, isMarker]

theorem unmarked_eq (plain : PlainFields seen fields asks) : unmarked seen = fields := by
  rw [plain.split]
  cases asks with
  | true => rfl
  | false =>
    rw [if_neg Bool.false_ne_true, unmarked, if_neg]
    cases fields with
    | nil => simp
    | cons first rest => simp [(isParam_range (plain.params first List.mem_cons_self)).2]

theorem marker_eq (plain : PlainFields seen fields asks) :
    seen.head?.filter isMarker = if asks then some questionMark else none := by
  rw [plain.split]
  cases asks with
  | true => rfl
  | false =>
    rw [if_neg Bool.false_ne_true, if_neg Bool.false_ne_true]
    cases fields with
    | nil => rfl
    | cons first rest => simp [(isParam_range (plain.params first List.mem_cons_self)).2]

theorem readCsi_eq (plain : PlainFields seen fields asks) :
    readCsi seen = some
      ⟨if asks then some questionMark else none, (fields.splitOn semicolon).map digitsValue,
        []⟩ := by
  have collected : seen.filter (fun byte => 0x20 ≤ byte ∧ byte ≤ 0x3f) = seen := by
    refine List.filter_eq_self.mpr fun byte member => decide_eq_true ?_
    rw [plain.split] at member
    cases asks with
    | true =>
      rcases List.mem_cons.mp member with same | param
      · subst same
        decide
      · exact (isParam_range (plain.params byte param)).1
    | false => exact (isParam_range (plain.params byte member)).1
  have taken : fields.takeWhile isParam = fields :=
    List.takeWhile_eq_self_iff.mpr fun byte member => plain.params byte member
  have dropped : fields.dropWhile isParam = [] :=
    List.dropWhile_eq_nil_iff.mpr fun byte member => plain.params byte member
  unfold readCsi
  dsimp only
  rw [collected, plain.unmarked_eq, plain.marker_eq, taken, dropped]
  rfl

theorem query_eq (plain : PlainFields seen fields asks) (final : UInt8) :
    (ControlSequence.mk (if asks then some questionMark else none)
        ((fields.splitOn semicolon).map digitsValue) []).query final =
      csiTerminalQuery seen final := by
  unfold csiTerminalQuery ControlSequence.query
  dsimp only
  rw [plain.contains, plain.first_eq]
  generalize ((fields.splitOn semicolon).map digitsValue).headD 0 = first
  have different : (0x6e : UInt8) ≠ 0x63 := by decide
  cases asks with
  | true =>
    by_cases asked : final = 0x6e
    · subst asked
      simp [different]
    · simp [asked]
  | false =>
    by_cases attributes : final = 0x63
    · subst attributes
      simp [different.symm]
    · by_cases status : final = 0x6e
      · subst status
        simp only [ne_eq, not_true_eq_false, if_false, if_true, different, false_and, true_and,
          Bool.false_eq_true, Bool.not_false]
        split_ifs with ok position
        · subst ok
          rfl
        · subst position
          rfl
        · split
          · exact absurd rfl ok
          · exact absurd rfl position
          · rfl
      · simp [attributes, status]

theorem request_eq (plain : PlainFields seen fields asks)
    (short : seen.length ≤ terminalMaxCsiSequenceBytes) (final : UInt8) :
    detectedRequest seen final = standardRequest seen final := by
  rw [detectedRequest, if_neg (Nat.not_lt.mpr short), standardRequest, plain.readCsi_eq]
  dsimp only
  rw [plain.query_eq, plain.contains, plain.parseCsiParams_eq, ControlSequence.privateModes]
  cases asks with
  | false => simp
  | true =>
    by_cases changes : final = 0x68 ∨ final = 0x6c
    · simp only [changes, if_true, and_self]
      split
      · next none =>
        rw [none]
        rfl
      · rfl
    · simp only [changes, if_true, false_and, and_false, if_false]

end PlainFields

theorem request_alike {seen : Bytes} {final : UInt8} (alike : final ∉ requestFinals ∨
      (plainParams seen = true ∧ seen.length ≤ terminalMaxCsiSequenceBytes)) :
    detectedRequest seen final = standardRequest seen final := by
  rcases alike with other | ⟨plain, short⟩
  · simp only [requestFinals, List.mem_cons, List.not_mem_nil, or_false, not_or] at other
    have detected : detectedRequest seen final = .of none [] := by
      rw [detectedRequest, csiTerminalQuery]
      simp [other]
    have standard : standardRequest seen final = .of none [] := by
      rw [standardRequest]
      cases readCsi seen with
      | none => rfl
      | some sequence => simp [ControlSequence.query, ControlSequence.privateModes, other]
    rw [detected, standard]
  · obtain ⟨fields, asks, plain⟩ := plainFields_of_plain plain
    exact plain.request_eq short final

/-- Fields left out at the end, numbers behind the first, and other markers do no harm by
themselves. -/
example : ∀ sequence ∈ [("6;", 0x6e), (";", 0x63), ("?1004;", 0x68), ("20;", 0x68), (">4;2", 0x6e)],
    detectedRequest (ascii sequence.1) sequence.2 = standardRequest (ascii sequence.1) sequence.2 := by
  decide +kernel

/-! ## Streams -/

theorem shows_agree {parser : VtParser} {detector : TerminalResponseDetector}
    (agree : Agree parser detector) {stream : Bytes} (plain : Undisturbed parser detector stream) :
    detector.shows stream = parser.shows .terminatorOnly stream := by
  induction stream generalizing parser detector with
  | nil => rfl
  | cons byte rest ih =>
    obtain ⟨here, later⟩ := plain
    obtain ⟨next, query⟩ := agree.step here
    simp only [TerminalResponseDetector.shows, VtParser.shows]
    rw [ih next later, query, next.focusReporting, next.alternateScroll]

def VtParser.after (parser : VtParser) (stream : Bytes) : VtParser :=
  stream.foldl (fun parser byte => (parser.step .terminatorOnly byte).1) parser

def TerminalResponseDetector.after (detector : TerminalResponseDetector) (stream : Bytes) :
    TerminalResponseDetector :=
  stream.foldl (fun detector byte => (detector.advance byte).1) detector

/-- What the detector never loses: it is behind an escape or in a string only where the parser
is. -/
def Linked (parser : VtState) (detector : TerminalResponseState) : Prop :=
  match detector with
  | .escape => parser = .escape ∨ ∃ bellEnds, parser = .string bellEnds true
  | .string escSeen => ∃ bellEnds, parser = .string bellEnds escSeen
  | _ => True

section
variable {parser : VtParser} {detector : TerminalResponseDetector} {byte : UInt8}

theorem step_escape : (parser.step .terminatorOnly escapeByte).1.state = .escape ∨
    ∃ bellEnds, (parser.step .terminatorOnly escapeByte).1.state = .string bellEnds true := by
  obtain ⟨state, focus, scroll⟩ := parser
  cases state with
  | string bellEnds escSeen => exact .inr ⟨bellEnds, by cases escSeen <;> rfl⟩
  | _ => exact .inl rfl

def stringBytes : List UInt8 := [0x5d, 0x50, 0x5f, 0x5e, 0x58]

theorem advance_escape (byte : UInt8) (focus scroll : Bool) (csi : Bytes) :
    (byte ∈ stringBytes ∧ (TerminalResponseDetector.advance ⟨.escape, focus, scroll, csi⟩
        byte).1.state = .string false) ∨
      (byte = 0x5b ∧ (TerminalResponseDetector.advance ⟨.escape, focus, scroll, csi⟩
        byte).1.state = .csi) ∨
      (isFinal byte = false ∧ (TerminalResponseDetector.advance ⟨.escape, focus, scroll, csi⟩
        byte).1.state = .ignoreOne) ∨
      (TerminalResponseDetector.advance ⟨.escape, focus, scroll, csi⟩ byte).1.state = .ground := by
  simp only [TerminalResponseDetector.advance, TerminalResponseDetector.enter]
  split_ifs with reset bracket string designator identify
  · exact .inr (.inr (.inr rfl))
  · exact .inr (.inl ⟨bracket, rfl⟩)
  · exact .inl ⟨by simpa [stringBytes] using string, rfl⟩
  · refine .inr (.inr (.inl ⟨?_, rfl⟩))
    rcases designator with rfl | rfl | rfl | rfl <;> decide
  · exact .inr (.inr (.inr rfl))
  · exact .inr (.inr (.inr rfl))

theorem step_stringBytes (behind : parser.state = .escape ∨ ∃ bellEnds,
      parser.state = .string bellEnds true) (begins : byte ∈ stringBytes) :
    ∃ bellEnds, (parser.step .terminatorOnly byte).1.state = .string bellEnds false := by
  obtain ⟨state, focus, scroll⟩ := parser
  simp only [stringBytes, List.mem_cons, List.not_mem_nil, or_false] at begins
  rcases behind with rfl | ⟨bellEnds, rfl⟩
  · rcases begins with rfl | rfl | rfl | rfl | rfl <;> exact ⟨_, rfl⟩
  · rcases begins with rfl | rfl | rfl | rfl | rfl <;> exact ⟨bellEnds, rfl⟩

theorem step_string {bellEnds escSeen : Bool} (parsing : parser.state = .string bellEnds escSeen)
    (detecting : detector.state = .string escSeen) :
    ((parser.step .terminatorOnly byte).1.state = .ground ∧
        (detector.advance byte).1.state = .ground) ∨
      ((parser.step .terminatorOnly byte).1.state = .string bellEnds (byte = escapeByte) ∧
        (detector.advance byte).1.state = .string (byte = escapeByte)) := by
  simp only [VtParser.step, parsing, VtParser.stringByte, VtParser.enter,
    TerminalResponseDetector.advance, detecting, TerminalResponseDetector.enter]
  split
  · exact .inl ⟨rfl, rfl⟩
  · exact .inr ⟨rfl, rfl⟩

theorem Linked.of_other {state : VtState} {other : TerminalResponseState}
    (escape : other ≠ .escape) (string : ∀ escSeen, other ≠ .string escSeen) :
    Linked state other := by
  cases other with
  | escape => exact absurd rfl escape
  | string escSeen => exact absurd rfl (string escSeen)
  | _ => trivial

theorem Linked.step (linked : Linked parser.state detector.state) :
    Linked (parser.step .terminatorOnly byte).1.state (detector.advance byte).1.state := by
  obtain ⟨state, focus, scroll, csi⟩ := detector
  cases state with
  | ground =>
    by_cases escape : byte = escapeByte
    · subst escape
      exact step_escape
    · simp [TerminalResponseDetector.advance, TerminalResponseDetector.enter, escape, Linked]
  | escape =>
    rcases advance_escape byte focus scroll csi with ⟨begins, same⟩ | ⟨-, same⟩ | ⟨-, same⟩ | same
    · obtain ⟨bellEnds, goes⟩ := step_stringBytes linked begins
      rw [same, goes]
      exact ⟨bellEnds, rfl⟩
    all_goals
      rw [same]
      trivial
  | string escSeen =>
    obtain ⟨bellEnds, parsing⟩ := linked
    rcases @step_string _ ⟨.string escSeen, focus, scroll, csi⟩ byte _ _ parsing rfl
      with ⟨-, same⟩ | ⟨goes, same⟩
    · rw [same]
      trivial
    · rw [same, goes]
      exact ⟨bellEnds, rfl⟩
  | csi =>
    refine .of_other ?_ fun _ => ?_ <;>
      (simp only [TerminalResponseDetector.advance, TerminalResponseDetector.enter]
       split_ifs <;> (intro same; cases same))
  | csiIgnored =>
    refine .of_other ?_ fun _ => ?_ <;>
      (simp only [TerminalResponseDetector.advance, TerminalResponseDetector.enter]
       split_ifs <;> (intro same; cases same))
  | ignoreOne => trivial

theorem Linked.ground (linked : Linked parser.state detector.state) (final : isFinal byte = true)
    (ground : (parser.step .terminatorOnly byte).1.state = .ground) :
    (detector.advance byte).1.state = .ground := by
  obtain ⟨state, focus, scroll, csi⟩ := detector
  cases state with
  | ground =>
    have text := (not_aborting_of_final final).1
    simp [TerminalResponseDetector.advance, TerminalResponseDetector.enter, text]
  | escape =>
    rcases advance_escape byte focus scroll csi with ⟨begins, -⟩ | ⟨rfl, -⟩ | ⟨other, -⟩ | same
    · obtain ⟨bellEnds, goes⟩ := step_stringBytes linked begins
      rw [goes] at ground
      cases ground
    · obtain ⟨state, focus, scroll⟩ := parser
      rcases linked with rfl | ⟨bellEnds, rfl⟩ <;> cases ground
    · rw [other] at final
      cases final
    · exact same
  | string escSeen =>
    obtain ⟨bellEnds, parsing⟩ := linked
    rcases @step_string _ ⟨.string escSeen, focus, scroll, csi⟩ byte _ _ parsing rfl
      with ⟨-, same⟩ | ⟨goes, -⟩
    · exact same
    · rw [goes] at ground
      cases ground
  | csi => simp [TerminalResponseDetector.advance, TerminalResponseDetector.enter, final]
  | csiIgnored => simp [TerminalResponseDetector.advance, TerminalResponseDetector.enter, final]
  | ignoreOne => rfl

theorem linked_after (linked : Linked parser.state detector.state) (stream : Bytes) :
    Linked (parser.after stream).state (detector.after stream).state := by
  induction stream generalizing parser detector with
  | nil => exact linked
  | cons byte rest ih => exact ih linked.step

end

def VtParser.withModes (focus scroll : Bool) (parser : VtParser) : VtParser :=
  { parser with focusReporting := focus, alternateScroll := scroll }

def TerminalResponseDetector.withModes (focus scroll : Bool)
    (detector : TerminalResponseDetector) : TerminalResponseDetector :=
  { detector with focusReporting := focus, alternateScroll := scroll }

theorem VtParser.step_congr {parser other : VtParser} (same : parser.state = other.state)
    (byte : UInt8) :
    (parser.step .terminatorOnly byte).1.state = (other.step .terminatorOnly byte).1.state ∧
      (parser.step .terminatorOnly byte).2 = (other.step .terminatorOnly byte).2 := by
  obtain ⟨state, focus, scroll⟩ := parser
  obtain ⟨_, otherFocus, otherScroll⟩ := other
  cases same
  cases state with
  | csi seen =>
    cases final : isFinal byte with
    | true =>
      rw [step_final final, step_final final]
      exact ⟨rfl, rfl⟩
    | false =>
      simp only [VtParser.step, VtParser.plainByte, VtParser.enter, final, Bool.false_eq_true,
        if_false]
      split_ifs <;> exact ⟨rfl, rfl⟩
  | string bellEnds escSeen => exact ⟨rfl, rfl⟩
  | ground | escape | escapeIntermediate =>
    simp only [VtParser.step, VtParser.plainByte, VtParser.enter]
    split_ifs <;> exact ⟨rfl, rfl⟩

theorem TerminalResponseDetector.csi_observeModeChange (detector : TerminalResponseDetector)
    (final : UInt8) : (detector.observeModeChange final).csi = detector.csi := by
  rw [observeModeChange]
  split_ifs
  · rw [foldl_setMode]
  · rfl
  · rfl

theorem TerminalResponseDetector.advance_congr {detector other : TerminalResponseDetector}
    (same : detector.state = other.state) (sameCsi : detector.csi = other.csi) (byte : UInt8) :
    (detector.advance byte).1.state = (other.advance byte).1.state ∧
      (detector.advance byte).1.csi = (other.advance byte).1.csi ∧
      (detector.advance byte).2 = (other.advance byte).2 := by
  obtain ⟨state, focus, scroll, csi⟩ := detector
  obtain ⟨_, otherFocus, otherScroll, _⟩ := other
  cases same
  cases sameCsi
  cases state with
  | csi =>
    simp only [advance, enter]
    split_ifs
    · refine ⟨rfl, ?_, rfl⟩
      dsimp only
      rw [csi_observeModeChange, csi_observeModeChange]
    · exact ⟨rfl, rfl, rfl⟩
    · exact ⟨rfl, rfl, rfl⟩
  | escape | string =>
    simp only [advance, enter]
    split_ifs <;> exact ⟨rfl, rfl, rfl⟩
  | ground | csiIgnored | ignoreOne => exact ⟨rfl, rfl, rfl⟩

section
variable {parser : VtParser} {detector : TerminalResponseDetector} {byte : UInt8} {stream : Bytes}

theorem Undisturbed.congr {otherParser : VtParser} {otherDetector : TerminalResponseDetector}
    (parsing : parser.state = otherParser.state) (detecting : detector.state = otherDetector.state)
    (csi : detector.csi = otherDetector.csi) (plain : Undisturbed parser detector stream) :
    Undisturbed otherParser otherDetector stream := by
  induction stream generalizing parser detector otherParser otherDetector with
  | nil => trivial
  | cons byte rest ih =>
    obtain ⟨states, codes, -⟩ := TerminalResponseDetector.advance_congr detecting csi byte
    refine ⟨?_, ih (VtParser.step_congr parsing byte).1 states codes plain.2⟩
    rw [← parsing, ← detecting]
    exact plain.1

theorem VtParser.queries_congr {other : VtParser} (same : parser.state = other.state) :
    (parser.shows .terminatorOnly stream).map Shown.query =
      (other.shows .terminatorOnly stream).map Shown.query := by
  induction stream generalizing parser other with
  | nil => rfl
  | cons byte rest ih =>
    obtain ⟨states, query⟩ := VtParser.step_congr same byte
    exact congrArg₂ List.cons query (ih states)

theorem TerminalResponseDetector.queries_congr {other : TerminalResponseDetector}
    (same : detector.state = other.state) (sameCsi : detector.csi = other.csi) :
    (detector.shows stream).map Shown.query = (other.shows stream).map Shown.query := by
  induction stream generalizing detector other with
  | nil => rfl
  | cons byte rest ih =>
    obtain ⟨states, codes, query⟩ := advance_congr same sameCsi byte
    exact congrArg₂ List.cons query (ih states codes)

/-! ## What is left out has to be -/

/-- The query `ESC Z` without its escape. -/
def identify : UInt8 := 0x5a

theorem advance_identify (behind : detector.state ≠ .escape) :
    (detector.advance identify).2 = none := by
  obtain ⟨state, focus, scroll, csi⟩ := detector
  cases state with
  | escape => exact absurd rfl behind
  | csi => rfl
  | csiIgnored => rfl
  | string escSeen => cases escSeen <;> rfl
  | _ => rfl

theorem shows_identify (parsing : parser.state = .escape) (behind : detector.state ≠ .escape) :
    detector.shows [identify] ≠ parser.shows .terminatorOnly [identify] := by
  intro same
  obtain ⟨state, focus, scroll⟩ := parser
  cases parsing
  have query : (detector.advance identify).2 = some (.device primaryDeviceAttributesResponse) :=
    congrArg Shown.query (List.cons.inj same).1
  rw [advance_identify behind] at query
  cases query

theorem shows_cons_ne {rest : Bytes} (differ : (detector.advance byte).1.shows rest ≠
      (parser.step .terminatorOnly byte).1.shows .terminatorOnly rest) :
    detector.shows (byte :: rest) ≠ parser.shows .terminatorOnly (byte :: rest) :=
  fun same => differ (List.cons.inj same).2

theorem advance_csi (within : detector.state = .csi ∨ detector.state = .csiIgnored)
    (inside : isFinal byte = false) :
    (detector.advance byte).1.state = .csi ∨ (detector.advance byte).1.state = .csiIgnored := by
  obtain ⟨state, focus, scroll, csi⟩ := detector
  rcases within with rfl | rfl
  · simp only [TerminalResponseDetector.advance, TerminalResponseDetector.enter, inside,
      Bool.false_eq_true, if_false]
    split_ifs
    · exact .inr rfl
    · exact .inl rfl
  · simp [TerminalResponseDetector.advance, TerminalResponseDetector.enter, inside]

theorem not_escape_of_csi (within : detector.state = .csi ∨ detector.state = .csiIgnored) :
    detector.state ≠ .escape := by
  rcases within with same | same <;> rw [same] <;> (intro other; cases other)

/-- A control sequence that is read otherwise shows it, with some modes before it. -/
theorem shown_ne {detected standard : Request} (differ : detected ≠ standard) (final : UInt8) :
    ∃ focus scroll, detected.shown final focus scroll ≠ standard.shown final focus scroll := by
  refine ⟨!(final = 0x68), !(final = 0x68), fun same => differ ?_⟩
  obtain ⟨query, focus, scroll⟩ := detected
  obtain ⟨otherQuery, otherFocus, otherScroll⟩ := standard
  simp only [Request.shown, Shown.mk.injEq] at same
  obtain ⟨rfl, focuses, scrolls⟩ := same
  revert focuses scrolls
  cases decide (final = 0x68) <;> cases focus <;> cases otherFocus <;> cases scroll <;>
    cases otherScroll <;> simp

theorem escapeBytes_range : ∀ byte ∈ escapeBytes, 0x20 ≤ byte ∧ byte ≤ 0x7e := by
  decide +kernel

theorem disturbed_shows (inStep : InStep parser.state detector)
    (disturbed : undisturbed parser.state detector.state byte = false) :
    ∃ focus scroll rest, (detector.withModes focus scroll).shows (byte :: rest) ≠
      (parser.withModes focus scroll).shows .terminatorOnly (byte :: rest) := by
  obtain ⟨state, focus, scroll⟩ := parser
  obtain ⟨stands, focuses, scrolls, csi⟩ := detector
  cases state with
  | ground => cases disturbed
  | string bellEnds escSeen => cases disturbed
  | escape =>
    cases inStep
    have range := of_decide_eq_false disturbed
    -- Each case has a continuation that tells the two apart: here the parser is still behind the
    -- escape, and the detector is not.
    have other : byte ∉ escapeBytes := fun told => range (.inl (escapeBytes_range byte told))
    refine ⟨focus, scroll, [identify], shows_cons_ne (shows_identify ?_ ?_)⟩
    · have stays : VtParser.step .terminatorOnly ⟨.escape, focus, scroll⟩ byte =
          (⟨.escape, focus, scroll⟩, none) := by
        by_cases escape : byte = escapeByte
        · subst escape
          rfl
        · have outside : isIntermediate byte = false ∧ ¬(0x30 ≤ byte ∧ byte ≤ 0x7e) ∧
              ¬(byte = 0x18 ∨ byte = 0x1a) := by
            grind [isIntermediate]
          obtain ⟨inter, final, aborts⟩ := outside
          simp only [escapeBytes, List.mem_cons, List.not_mem_nil, or_false, not_or] at other
          simp [VtParser.step, VtParser.plainByte, escape, aborts, inter, other, final]
      exact congrArg (fun stepped => stepped.1.state) stays
    · rw [TerminalResponseDetector.withModes, advance_escape_other other]
      intro same
      cases same
  | escapeIntermediate collected =>
    have both := of_decide_eq_false disturbed
    obtain ⟨escape, moved⟩ := not_or.mp both
    obtain rfl := not_not.mp escape
    obtain rfl : stands = .ignoreOne := (inStep.resolve_left moved).1
    refine ⟨focus, scroll, [identify], shows_cons_ne (shows_identify rfl ?_)⟩
    intro same
    cases same
  | csi seen =>
    have within : stands = .csi ∨ stands = .csiIgnored := inStep.imp And.left And.left
    have all := of_decide_eq_false disturbed
    by_cases escape : byte = escapeByte
    · subst escape
      exact ⟨focus, scroll, [identify], shows_cons_ne (shows_identify rfl
        (not_escape_of_csi (advance_csi within rfl)))⟩
    · by_cases aborts : byte = 0x18 ∨ byte = 0x1a
      · -- The parser is back at the start, while the detector waits for the end of the sequence.
        have inside : isFinal byte = false := by rcases aborts with rfl | rfl <;> rfl
        have left : (VtParser.step .terminatorOnly ⟨.csi seen, focus, scroll⟩ byte).1.state =
            .ground := by rcases aborts with rfl | rfl <;> rfl
        let detector : TerminalResponseDetector := ⟨stands, focus, scroll, csi⟩
        have passed := @advance_csi detector byte within inside
        have later := @advance_csi (detector.advance byte).1 escapeByte passed rfl
        refine ⟨focus, scroll, [escapeByte, identify], shows_cons_ne (shows_cons_ne
          (shows_identify ?_ (not_escape_of_csi later)))⟩
        exact (@VtParser.step_congr _ ⟨.ground, focus, scroll⟩ left escapeByte).1
      · -- Both read the sequence to its end, and take it for different requests.
        have read : isFinal byte = true ∧ detectedRequest seen byte ≠ standardRequest seen byte := by
          by_contra same
          refine all ⟨escape, fun cancel => aborts (.inl cancel), fun substitute =>
            aborts (.inr substitute), fun final => ?_⟩
          by_contra differ
          exact same ⟨final, differ⟩
        obtain ⟨final, differ⟩ := read
        obtain ⟨focus', scroll', shows⟩ := shown_ne differ byte
        refine ⟨focus', scroll', [], fun same => shows ?_⟩
        have parsed : VtParser.shows .terminatorOnly ⟨.csi seen, focus', scroll'⟩ [byte] =
            [(standardRequest seen byte).shown byte focus' scroll'] := by
          rw [VtParser.shows, step_final final]
          rfl
        have detected : TerminalResponseDetector.shows ⟨stands, focus', scroll', csi⟩ [byte] =
            [(detectedRequest seen byte).shown byte focus' scroll'] := by
          rcases inStep with ⟨rfl, rfl, short⟩ | ⟨rfl, long⟩
          · rw [TerminalResponseDetector.shows, advance_final final short]
            rfl
          · rw [TerminalResponseDetector.shows, advance_ignored final long]
            rfl
        exact (List.cons.inj (detected.symm.trans (same.trans parsed))).1

end

/-! ## The contract -/

structure DetectorContract : Prop where
  /-- From where both stand alike every byte shows the same, but for those that disturb. -/
  agrees : ∀ (parser : VtParser) (detector : TerminalResponseDetector) stream,
    Agree parser detector → Undisturbed parser detector stream →
      detector.shows stream = parser.shows .terminatorOnly stream
  /-- Each of these has to be left out: with some modes and some bytes behind it, it shows
  otherwise. -/
  forced : ∀ (parser : VtParser) (detector : TerminalResponseDetector) byte,
    InStep parser.state detector →
    undisturbed parser.state detector.state byte = false →
    ∃ focus scroll rest, (detector.withModes focus scroll).shows (byte :: rest) ≠
      (parser.withModes focus scroll).shows .terminatorOnly (byte :: rest)
  /-- A control sequence that asks for nothing, or has plain parameters, is read alike. -/
  alike : ∀ seen final, final ∉ requestFinals ∨
    (plainParams seen = true ∧ seen.length ≤ terminalMaxCsiSequenceBytes) →
      detectedRequest seen final = standardRequest seen final
  /-- Whatever came before, a final byte that leaves the parser at ground leaves the detector
  there. -/
  recovers : ∀ stream final, isFinal final = true →
    (VtParser.initial.after (stream ++ [final])).state = .ground →
      (TerminalResponseDetector.default.after (stream ++ [final])).state = .ground
  /-- From there on the same queries are found, and the same changes of the modes. -/
  resumes : ∀ stream final rest,
    let parser := VtParser.initial.after (stream ++ [final])
    let detector := TerminalResponseDetector.default.after (stream ++ [final])
    isFinal final = true → parser.state = .ground → Undisturbed parser detector rest →
      (detector.shows rest).map Shown.query =
          (parser.shows .terminatorOnly rest).map Shown.query ∧
        ∀ focus scroll, (detector.withModes focus scroll).shows rest =
          (parser.withModes focus scroll).shows .terminatorOnly rest
  /-- The detector takes output for a string only where the parser does. -/
  strings : ∀ stream escSeen,
    (TerminalResponseDetector.default.after stream).state = .string escSeen →
      ∃ bellEnds, (VtParser.initial.after stream).state = .string bellEnds escSeen

theorem detector_recovers {stream : Bytes} {final : UInt8} (ends : isFinal final = true)
    (ground : (VtParser.initial.after (stream ++ [final])).state = .ground) :
    (TerminalResponseDetector.default.after (stream ++ [final])).state = .ground := by
  have before := @linked_after .initial .default trivial stream
  rw [VtParser.after, List.foldl_append] at ground
  rw [TerminalResponseDetector.after, List.foldl_append]
  exact before.ground ends ground

theorem detector_agrees : DetectorContract where
  agrees _ _ _ agree plain := shows_agree agree plain
  forced _ _ _ inStep disturbed := disturbed_shows inStep disturbed
  alike _ _ either := request_alike either
  recovers _ _ := detector_recovers
  resumes stream final rest := by
    intro parser detector ends ground plain
    have recovered := detector_recovers ends ground
    have modes (focus scroll : Bool) : (detector.withModes focus scroll).shows rest =
        (parser.withModes focus scroll).shows .terminatorOnly rest := by
      refine shows_agree ⟨rfl, rfl, ?_⟩ (@Undisturbed.congr parser detector _ _ _ rfl rfl rfl plain)
      rw [VtParser.withModes, ground]
      exact recovered
    refine ⟨?_, modes⟩
    have queries := congrArg (List.map Shown.query) (modes false false)
    have detecting := @TerminalResponseDetector.queries_congr detector rest
      (detector.withModes false false) rfl rfl
    have parsing := @VtParser.queries_congr (parser.withModes false false) rest parser rfl
    exact detecting.trans (queries.trans parsing)
  strings stream escSeen detecting := by
    have linked := @linked_after .initial .default trivial stream
    rw [detecting] at linked
    exact linked

def control (text : String) : Bytes := escapeByte :: ascii text

/-- A title with an escape sequence in it, modes, a character set, and queries. -/
def orderlyStream : Bytes :=
  control "]0;" ++ control "[?1007h" ++ [0x07] ++ control "[?1004;1006h" ++ control "(B" ++
    control "[6n" ++ control "[?1;2;3;4;5 q" ++ control "[0c" ++ control "c" ++ control "Z"

/-- An escape within a control sequence and a sequence that is broken off, and then text. -/
def interruptedStream : Bytes :=
  control "[1" ++ control "[c" ++ control "[2" ++ [0x18] ++ ascii "oa"

theorem detector_agrees_interrupted :
    (((TerminalResponseDetector.default.after (interruptedStream ++ [0x6b])).shows
        orderlyStream).map Shown.query =
      ((VtParser.initial.after (interruptedStream ++ [0x6b])).shows .terminatorOnly
        orderlyStream).map Shown.query) ∧
    TerminalResponseDetector.default.shows orderlyStream =
      VtParser.initial.shows .terminatorOnly orderlyStream :=
  ⟨(detector_agrees.resumes interruptedStream 0x6b orderlyStream rfl (by decide +kernel)
      (by decide +kernel)).1,
    detector_agrees.agrees .initial .default orderlyStream ⟨rfl, rfl, rfl⟩ (by decide +kernel)⟩

/-- Streams on which the detector does not show what a standard parser does: an escape, `CAN` or
`SUB` within a sequence or a string; a control behind an escape or within parameters; a private
marker, an intermediate, an empty or too large parameter, too many digits; and an escape within a
title. -/
def disagreements : List Bytes :=
  [escapeByte :: control "[c", control "[1" ++ control "[c", control "(" ++ control "[c",
    control "[1" ++ [0x18] ++ control "[c", control "[1" ++ [0x1a] ++ control "[c",
    control "]0;" ++ [0x18] ++ control "[c", control "[?1004h" ++ [escapeByte, 0x0a] ++ ascii "c",
    control "[" ++ [0x0a] ++ control "[c", control "[0" ++ [0x0a] ++ ascii "5n",
    control "[>c", control "[5 n", control "[;6n",
    control "[18446744073709551616c", control "[" ++ List.replicate 129 0x30 ++ ascii "c",
    control "]0;" ++ control "[?1007h" ++ [0x07]]

theorem detector_disagrees : disagreements.all (fun stream =>
    TerminalResponseDetector.default.shows stream ≠ VtParser.initial.shows .standard stream) := by
  decide +kernel

end Mult.Terminal
