import Mult.Terminal.Detector

/-! Feeding output to a screen parser while terminal queries are answered: in batches, and
what comes to the same, byte by byte.
-/

set_option autoImplicit false

namespace Mult.Terminal
open Protocol

def maxTerminalQueryResponsesPerChunk : Nat := 8
def maxTerminalQueryResponseBytes : Nat := 256

/-- The screen parser: what processing some bytes does to it, and where its cursor is. -/
structure ScreenParser (P : Type) where
  process : P → Bytes → P
  cursorPosition : P → Nat × Nat

inductive TerminalQueryKind where
  | cursorPosition
  | device
  deriving DecidableEq, Repr

structure TerminalQueryResponse where
  kind : TerminalQueryKind
  bytes : Bytes
  deriving DecidableEq, Repr

def decimal (number : Nat) : Bytes := (Nat.toDigits 10 number).map fun digit => .ofNat digit.toNat

section
variable {P : Type} (screen : ScreenParser P)

def cursorPositionReport (parser : P) (decPrivate : Bool) : Bytes :=
  let (row, col) := screen.cursorPosition parser
  escapeByte :: ascii (if decPrivate then "[?" else "[") ++ decimal (row + 1) ++ ascii ";" ++
    decimal (col + 1) ++ ascii "R"

def TerminalQuery.resolve (parser : P) : TerminalQuery → TerminalQueryResponse
  | .device bytes => ⟨.device, bytes⟩
  | .cursorPosition decPrivate =>
      ⟨.cursorPosition, cursorPositionReport screen parser decPrivate⟩

/-- The answers to one chunk of output so far. The queries and the parsers they were asked of are
there for the statements only. -/
structure Answers (P : Type) where
  payload : Bytes
  answered : Nat
  cursorReported : Bool
  asked : List (TerminalQuery × P)

def Answers.none : Answers P := ⟨[], 0, false, []⟩

/-- A query is answered from the parser as it is, within the bounds on a chunk's answers. -/
def Answers.add (answers : Answers P) (query : TerminalQuery) (parser : P) : Answers P :=
  let response := query.resolve screen parser
  let asked := answers.asked ++ [(query, parser)]
  let repeatedCursor := answers.cursorReported && response.kind = .cursorPosition
  let overBudget := maxTerminalQueryResponsesPerChunk ≤ answers.answered ∨
    maxTerminalQueryResponseBytes < answers.payload.length + response.bytes.length
  if repeatedCursor ∨ overBudget then { answers with asked := asked }
  else
    { payload := answers.payload ++ response.bytes
      answered := answers.answered + 1
      cursorReported := answers.cursorReported || response.kind = .cursorPosition
      asked := asked }

def Answers.addAll (answers : Answers P) (query : Option TerminalQuery) (parser : P) : Answers P :=
  query.elim answers fun query => answers.add screen query parser

/-- A pane's parser and detector, and the answers to the chunk being fed. -/
structure Feed (P : Type) where
  parser : P
  responder : TerminalResponseDetector
  answers : Answers P

/-- Bytes up to the one that takes the detector back to ground: the detector there, the query
found on the way, those bytes, and the bytes behind them. -/
def scanSequence (responder : TerminalResponseDetector) (query : Option TerminalQuery) :
    Bytes → TerminalResponseDetector × Option TerminalQuery × Bytes × Bytes
  | [] => (responder, query, [], [])
  | byte :: rest =>
      let (responder, recognised) := responder.advance byte
      let query := recognised.or query
      if responder.isGround then (responder, query, [byte], rest)
      else
        let (responder, query, taken, later) := scanSequence responder query rest
        (responder, query, byte :: taken, later)

theorem scanSequence_later (responder : TerminalResponseDetector) (query : Option TerminalQuery)
    (byte : UInt8) (rest : Bytes) :
    (scanSequence responder query (byte :: rest)).2.2.2.length ≤ rest.length := by
  induction rest generalizing responder query byte with
  | nil =>
    simp only [scanSequence]
    split <;> simp
  | cons next rest ih =>
    rw [scanSequence]
    dsimp only
    split
    · exact Nat.le_refl _
    · exact (ih _ _ next).trans (Nat.le_succ _)

/-- `feed_parser_with_responder`: text up to an escape, or one escape sequence, at a time. -/
def feedParserWithResponder (feed : Feed P) : Bytes → Feed P
  | [] => feed
  | byte :: rest =>
      if feed.responder.isGround ∧ byte ≠ escapeByte then
        let run := (byte :: rest).takeWhile (· ≠ escapeByte)
        feedParserWithResponder { feed with parser := screen.process feed.parser run }
          (rest.dropWhile (· ≠ escapeByte))
      else
        let scanned := scanSequence feed.responder none (byte :: rest)
        let parser := screen.process feed.parser scanned.2.2.1
        feedParserWithResponder
          ⟨parser, scanned.1, feed.answers.addAll screen scanned.2.1 parser⟩ scanned.2.2.2
termination_by bytes => bytes.length
decreasing_by
  · exact Nat.lt_succ_of_le (List.dropWhile_suffix _).length_le
  · exact Nat.lt_succ_of_le (scanSequence_later _ _ byte rest)

def feedByte (feed : Feed P) (byte : UInt8) : Feed P :=
  let parser := screen.process feed.parser [byte]
  let (responder, query) := feed.responder.advance byte
  ⟨parser, responder, feed.answers.addAll screen query parser⟩

/-- `feed_parser_byte_at_a_time`, the reference of the tests. -/
def feedParserByteAtATime (feed : Feed P) (bytes : Bytes) : Feed P := bytes.foldl (feedByte screen) feed

/-- Processing some bytes and then others is processing both. -/
def ScreenParser.Splits : Prop :=
  ∀ parser front back,
    screen.process (screen.process parser front) back = screen.process parser (front ++ back)

variable {screen}

theorem feed_text (splits : screen.Splits) {feed : Feed P} (first : UInt8) (more : Bytes)
    (ground : feed.responder.isGround = true) (text : ∀ byte ∈ first :: more, byte ≠ escapeByte) :
    feedParserByteAtATime screen feed (first :: more) =
      { feed with parser := screen.process feed.parser (first :: more) } := by
  induction more generalizing feed first with
  | nil =>
    simp only [feedParserByteAtATime, List.foldl_cons, List.foldl_nil, feedByte,
      TerminalResponseDetector.advance_ground ground (text first List.mem_cons_self)]
    rfl
  | cons next more ih =>
    have here : feedByte screen feed first =
        { feed with parser := screen.process feed.parser [first] } := by
      simp only [feedByte,
        TerminalResponseDetector.advance_ground ground (text first List.mem_cons_self)]
      rfl
    have later := @ih (feedByte screen feed first) next (by rw [here]; exact ground)
      fun byte member => text byte (List.mem_cons_of_mem _ member)
    rw [feedParserByteAtATime, List.foldl_cons]
    rw [feedParserByteAtATime] at later
    rw [later, here, splits]
    rfl

variable (screen) in
/-- A byte that leaves the detector within a sequence is answered with nothing. -/
theorem feedByte_within {feed : Feed P} {byte : UInt8}
    (within : ¬ (feed.responder.advance byte).1.isGround = true) :
    (feed.responder.advance byte).2 = none ∧ feedByte screen feed byte =
      { feed with
        parser := screen.process feed.parser [byte]
        responder := (feed.responder.advance byte).1 } := by
  have quiet : (feed.responder.advance byte).2 = none := by
    cases found : (feed.responder.advance byte).2 with
    | none => rfl
    | some query => exact absurd (TerminalResponseDetector.isGround_of_query found) within
  refine ⟨quiet, ?_⟩
  simp only [feedByte, quiet]
  rfl

/-- A sequence that is scanned and processed at once gives what its bytes give one by one. -/
theorem feed_sequence (splits : screen.Splits) (feed : Feed P) (byte : UInt8) (rest : Bytes) :
    byte :: rest = (scanSequence feed.responder none (byte :: rest)).2.2.1 ++
        (scanSequence feed.responder none (byte :: rest)).2.2.2 ∧
      feedParserByteAtATime screen feed
          (scanSequence feed.responder none (byte :: rest)).2.2.1 =
        let scanned := scanSequence feed.responder none (byte :: rest)
        let parser := screen.process feed.parser scanned.2.2.1
        ⟨parser, scanned.1, feed.answers.addAll screen scanned.2.1 parser⟩ := by
  induction rest generalizing feed byte with
  | nil =>
    simp only [scanSequence, Option.or_none]
    split
    · exact ⟨rfl, rfl⟩
    · next within =>
      obtain ⟨quiet, stepped⟩ := feedByte_within screen within
      refine ⟨rfl, ?_⟩
      simp only [feedParserByteAtATime, List.foldl_cons, List.foldl_nil, stepped, quiet]
      rfl
  | cons next rest ih =>
    rw [scanSequence]
    simp only [Option.or_none]
    split
    · exact ⟨rfl, rfl⟩
    · next within =>
      obtain ⟨quiet, stepped⟩ := feedByte_within screen within
      obtain ⟨whole, later⟩ := ih (feedByte screen feed byte) next
      rw [stepped] at whole later
      rw [quiet]
      refine ⟨congrArg (byte :: ·) whole, ?_⟩
      rw [feedParserByteAtATime, List.foldl_cons, stepped]
      rw [feedParserByteAtATime] at later
      rw [later]
      dsimp only
      rw [splits]
      rfl

theorem feedParserByteAtATime_append (feed : Feed P) (front back : Bytes) :
    feedParserByteAtATime screen feed (front ++ back) =
      feedParserByteAtATime screen (feedParserByteAtATime screen feed front) back :=
  List.foldl_append

theorem feedParserWithResponder_eq (splits : screen.Splits) (feed : Feed P) (bytes : Bytes) :
    feedParserWithResponder screen feed bytes = feedParserByteAtATime screen feed bytes := by
  fun_induction feedParserWithResponder screen feed bytes with
  | case1 feed => rfl
  | case2 feed byte rest text run ih =>
    have split : byte :: rest =
        (byte :: rest.takeWhile (· ≠ escapeByte)) ++ rest.dropWhile (· ≠ escapeByte) := by
      rw [List.cons_append, List.takeWhile_append_dropWhile]
    have same : run = byte :: rest.takeWhile (· ≠ escapeByte) :=
      List.takeWhile_cons_of_pos (by simpa using text.2)
    have first := feed_text splits byte (rest.takeWhile (· ≠ escapeByte)) text.1 (by
      intro other member
      rcases List.mem_cons.mp member with same | later
      · exact same ▸ text.2
      · simpa using List.mem_takeWhile_imp later)
    rw [ih, same, split, feedParserByteAtATime_append, first]
  | case3 feed byte rest other scanned parser ih =>
    obtain ⟨whole, sequence⟩ := feed_sequence splits feed byte rest
    rw [ih, whole, feedParserByteAtATime_append, sequence]

/-! ## A stream in chunks -/

/-- The chunks of a stream are fed one after the other; each has answers of its own. -/
def feedChunks (feedChunk : Feed P → Bytes → Feed P) (parser : P)
    (responder : TerminalResponseDetector) :
    List Bytes → P × TerminalResponseDetector × List (Answers P)
  | [] => (parser, responder, [])
  | chunk :: rest =>
      let fed := feedChunk ⟨parser, responder, .none⟩ chunk
      let (parser, responder, others) := feedChunks feedChunk fed.parser fed.responder rest
      (parser, responder, fed.answers :: others)

theorem Answers.addAll_asked (answers : Answers P) (query : Option TerminalQuery) (parser : P) :
    (answers.addAll screen query parser).asked =
      answers.asked ++ (query.map fun query => (query, parser)).toList := by
  cases query with
  | none => exact (List.append_nil _).symm
  | some query =>
    simp only [addAll, Option.elim_some, add, Option.map_some, Option.toList_some]
    split <;> rfl

/-- The answers given before decide neither what is asked nor what the parser becomes. -/
theorem feed_any_answers (parser : P) (responder : TerminalResponseDetector) (bytes : Bytes) :
    ∃ last final more, ∀ answers,
      (feedParserByteAtATime screen ⟨parser, responder, answers⟩ bytes).parser = last ∧
      (feedParserByteAtATime screen ⟨parser, responder, answers⟩ bytes).responder = final ∧
      (feedParserByteAtATime screen ⟨parser, responder, answers⟩ bytes).answers.asked =
        answers.asked ++ more := by
  induction bytes generalizing parser responder with
  | nil => exact ⟨parser, responder, [], fun answers => ⟨rfl, rfl, (List.append_nil _).symm⟩⟩
  | cons byte rest ih =>
    obtain ⟨last, final, more, same⟩ :=
      ih (screen.process parser [byte]) (responder.advance byte).1
    refine ⟨last, final,
      ((responder.advance byte).2.map fun query =>
        (query, screen.process parser [byte])).toList ++ more, ?_⟩
    intro answers
    obtain ⟨parsers, responders, asked⟩ := same (answers.addAll screen (responder.advance byte).2
      (screen.process parser [byte]))
    refine ⟨parsers, responders, ?_⟩
    rw [Answers.addAll_asked, List.append_assoc] at asked
    exact asked

theorem feedChunks_whole (parser : P) (responder : TerminalResponseDetector) (chunks : List Bytes) :
    let split := feedChunks (feedParserByteAtATime screen) parser responder chunks
    let whole := feedParserByteAtATime screen ⟨parser, responder, .none⟩ chunks.flatten
    split.1 = whole.parser ∧ split.2.1 = whole.responder ∧
      split.2.2.flatMap Answers.asked = whole.answers.asked := by
  induction chunks generalizing parser responder with
  | nil => exact ⟨rfl, rfl, rfl⟩
  | cons chunk rest ih =>
    obtain ⟨parsers, responders, asked⟩ := ih
      (feedParserByteAtATime screen ⟨parser, responder, .none⟩ chunk).parser
      (feedParserByteAtATime screen ⟨parser, responder, .none⟩ chunk).responder
    obtain ⟨last, final, more, same⟩ := feed_any_answers
      (feedParserByteAtATime screen ⟨parser, responder, .none⟩ chunk).parser
      (feedParserByteAtATime screen ⟨parser, responder, .none⟩ chunk).responder rest.flatten
    obtain ⟨fresh, freshResponder, freshAsked⟩ := same .none
    obtain ⟨onward, onwardResponder, onwardAsked⟩ := same
      (feedParserByteAtATime screen ⟨parser, responder, .none⟩ chunk).answers
    rw [fresh] at parsers
    rw [freshResponder] at responders
    rw [freshAsked] at asked
    simp only [feedChunks, List.flatten_cons, List.flatMap_cons, feedParserByteAtATime_append]
    exact ⟨parsers.trans onward.symm, responders.trans onwardResponder.symm,
      (congrArg _ asked).trans onwardAsked.symm⟩

/-- However a stream is split into chunks, feeding them in batches leaves the parser and the
detector, and answers each chunk, as feeding one byte at a time does; and what is asked, of which
parser, does not depend on the split. -/
theorem batched_feed_exact (splits : screen.Splits) (parser : P)
    (responder : TerminalResponseDetector) (chunks : List Bytes) :
    let batched := feedChunks (feedParserWithResponder screen) parser responder chunks
    let whole := feedParserByteAtATime screen ⟨parser, responder, .none⟩ chunks.flatten
    batched = feedChunks (feedParserByteAtATime screen) parser responder chunks ∧
      batched.1 = whole.parser ∧ batched.2.1 = whole.responder ∧
      batched.2.2.flatMap Answers.asked = whole.answers.asked := by
  have same : feedParserWithResponder screen = feedParserByteAtATime screen := by
    funext feed bytes
    exact feedParserWithResponder_eq splits feed bytes
  intro batched whole
  have equal : batched = feedChunks (feedParserByteAtATime screen) parser responder chunks := by
    simp only [batched, same]
  refine ⟨equal, ?_⟩
  rw [equal]
  exact feedChunks_whole parser responder chunks

end

/-- The columns that text takes between control sequences. -/
def textColumns : Bool → Bytes → Nat
  | _, [] => 0
  | within, byte :: rest =>
      if byte = escapeByte then textColumns true rest
      else if within then textColumns (byte = 0x5b || !isFinal byte) rest
      else textColumns false rest + 1

/-- One endless row, from all that was written to it. -/
def lineScreen : ScreenParser Bytes where
  process := (· ++ ·)
  cursorPosition written := (0, textColumns false written)

theorem lineScreen_splits : lineScreen.Splits := List.append_assoc

/-- Text, a query that two chunks share, and text behind it. -/
def sharedQuery : List Bytes := [ascii "ab" ++ [escapeByte, 0x5b], ascii "6ncd"]

theorem batched_feed_exact_shared :
    (feedChunks (feedParserWithResponder lineScreen) [] .default sharedQuery).2.2.flatMap
        Answers.asked =
      (feedParserByteAtATime lineScreen ⟨[], .default, .none⟩ sharedQuery.flatten).answers.asked :=
  (batched_feed_exact lineScreen_splits [] .default sharedQuery).2.2.2

example : (feedParserByteAtATime lineScreen ⟨[], .default, .none⟩
    sharedQuery.flatten).answers.payload = escapeByte :: ascii "[1;3R" := by decide

end Mult.Terminal
