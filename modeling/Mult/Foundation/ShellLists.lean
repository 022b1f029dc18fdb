import Mathlib

/-! How a POSIX shell reads a script as lists of pipelines, and in which order it starts them.

What a pipeline is, and what it does, is a parameter. `&&` and `||` have equal precedence and
associate to the left, a line is read before any of it runs, and a line that cannot be read ends
the script.
-/

set_option autoImplicit false

namespace Mult.Foundation.Shell

variable {T P S : Type}

/-- What a script consists of for its lists: control operators, and all else. -/
inductive Lexeme (T : Type) where
  | and
  | or
  | semicolon
  | ampersand
  | newline
  | other (token : T)
  deriving DecidableEq, Repr

/-- How a pipeline is read at the front of a script, compound commands and all. -/
structure Grammar (T P : Type) where
  pipeline : List (Lexeme T) → Option (P × List (Lexeme T))
  shorter : ∀ script found rest, pipeline script = some (found, rest) →
    rest.length < script.length

inductive Connector where
  | and
  | or
  deriving DecidableEq, Repr

structure AndOr (P : Type) where
  head : P
  tail : List (Connector × P)
  deriving DecidableEq, Repr

/-- A list behind a pipeline and `&&`. -/
def AndOr.behind (first : P) (list : AndOr P) : AndOr P :=
  ⟨first, (.and, list.head) :: list.tail⟩

structure Item (P : Type) where
  list : AndOr P
  background : Bool
  deriving DecidableEq, Repr

/-- The items of the lines that can be read, and whether all can. -/
structure Script (P : Type) where
  items : List (Item P)
  complete : Bool
  deriving DecidableEq, Repr

/-- The script behind a pipeline and `&&`. The pipeline joins the first list, and where there is
none the line cannot be read. -/
def Script.behind (first : P) (script : Script P) : Script P :=
  match script.items with
  | [] => ⟨[], false⟩
  | item :: others => ⟨⟨item.list.behind first, item.background⟩ :: others, script.complete⟩

def skipNewlines : List (Lexeme T) → List (Lexeme T)
  | .newline :: rest => skipNewlines rest
  | script => script

theorem skipNewlines_length (script : List (Lexeme T)) :
    (skipNewlines script).length ≤ script.length := by
  fun_induction skipNewlines script with
  | case1 rest ih => exact ih.trans (Nat.le_succ _)
  | case2 => exact Nat.le_refl _

def connectorOf : Lexeme T → Option Connector
  | .and => some .and
  | .or => some .or
  | _ => none

/-- Whether what stands in front of a separator runs in the background. -/
def separatorOf : Lexeme T → Option Bool
  | .semicolon => some false
  | .ampersand => some true
  | _ => none

def endOfLine : List (Lexeme T) → Option (List (Lexeme T))
  | [] => some []
  | .newline :: later => some later
  | _ => none

theorem endOfLine_length {script later : List (Lexeme T)} (ends : endOfLine script = some later) :
    later.length ≤ script.length := by
  unfold endOfLine at ends
  split at ends
  · cases ends
    exact Nat.le_refl _
  · cases ends
    exact Nat.le_succ _
  · cases ends

namespace Grammar

variable (grammar : Grammar T P)

/-- The pipelines behind the first of a list. -/
def readTail : List (Lexeme T) → Option (List (Connector × P) × List (Lexeme T))
  | [] => some ([], [])
  | lexeme :: rest =>
      match connectorOf lexeme with
      | none => some ([], lexeme :: rest)
      | some connector =>
        match _ : grammar.pipeline (skipNewlines rest) with
        | none => none
        | some (found, behind) =>
          (readTail behind).map fun (tail, left) => ((connector, found) :: tail, left)
termination_by script => script.length
decreasing_by
  have shorter := grammar.shorter _ _ _ ‹grammar.pipeline _ = _›
  have skipped := skipNewlines_length rest
  simp only [List.length_cons]
  omega

def readAndOr (script : List (Lexeme T)) : Option (AndOr P × List (Lexeme T)) :=
  match grammar.pipeline script with
  | none => none
  | some (head, rest) => (grammar.readTail rest).map fun (tail, left) => (⟨head, tail⟩, left)

theorem readTail_length {script left : List (Lexeme T)} {tail : List (Connector × P)}
    (read : grammar.readTail script = some (tail, left)) : left.length ≤ script.length := by
  fun_induction readTail grammar script generalizing tail with
  | case1 =>
    cases read
    exact Nat.le_refl _
  | case2 lexeme rest plain =>
    cases read
    exact Nat.le_refl _
  | case3 lexeme rest connector joins missing => cases read
  | case4 lexeme rest connector joins found behind first ih =>
    obtain ⟨⟨others, last⟩, inner, same⟩ := Option.map_eq_some_iff.mp read
    cases same
    have within := ih inner
    have shorter := grammar.shorter _ _ _ first
    have skipped := skipNewlines_length rest
    simp only [List.length_cons]
    omega

theorem readAndOr_length {script left : List (Lexeme T)} {list : AndOr P}
    (read : grammar.readAndOr script = some (list, left)) : left.length < script.length := by
  unfold readAndOr at read
  split at read
  · cases read
  · next head rest first =>
    obtain ⟨⟨tail, last⟩, inner, same⟩ := Option.map_eq_some_iff.mp read
    cases same
    exact Nat.lt_of_le_of_lt (grammar.readTail_length inner) (grammar.shorter _ _ _ first)

def readLine (script : List (Lexeme T)) : Option (List (Item P) × List (Lexeme T)) :=
  match _ : grammar.readAndOr script with
  | none => none
  | some (list, []) => some ([⟨list, false⟩], [])
  | some (list, lexeme :: rest) =>
    match endOfLine (lexeme :: rest) with
    | some later => some ([⟨list, false⟩], later)
    | none =>
      match separatorOf lexeme with
      | none => none
      | some background =>
        match endOfLine rest with
        | some later => some ([⟨list, background⟩], later)
        | none => (readLine rest).map fun (items, left) => (⟨list, background⟩ :: items, left)
termination_by script.length
decreasing_by
  have shorter := grammar.readAndOr_length ‹grammar.readAndOr _ = _›
  simp only [List.length_cons] at shorter
  omega

variable {grammar} in
theorem readLine_none {script : List (Lexeme T)} (read : grammar.readAndOr script = none) :
    grammar.readLine script = none := by
  rw [readLine]
  split <;> simp_all

variable {grammar} in
theorem readLine_some {script left : List (Lexeme T)} {list : AndOr P}
    (read : grammar.readAndOr script = some (list, left)) :
    grammar.readLine script =
      match left with
      | [] => some ([⟨list, false⟩], [])
      | lexeme :: rest =>
        match endOfLine (lexeme :: rest) with
        | some later => some ([⟨list, false⟩], later)
        | none =>
          match separatorOf lexeme with
          | none => none
          | some background =>
            match endOfLine rest with
            | some later => some ([⟨list, background⟩], later)
            | none =>
              (grammar.readLine rest).map fun (items, left) =>
                (⟨list, background⟩ :: items, left) := by
  rw [readLine]
  split
  · next missing => rw [missing] at read; cases read
  · next found => rw [found] at read; cases read; rfl
  · next found => rw [found] at read; cases read; rfl

theorem readLine_length {script left : List (Lexeme T)} {items : List (Item P)}
    (read : grammar.readLine script = some (items, left)) : left.length < script.length := by
  fun_induction readLine grammar script generalizing items with
  | case1 script missing => cases read
  | case2 script list first =>
    cases read
    exact grammar.readAndOr_length first
  | case3 script list lexeme rest first later ends =>
    cases read
    exact Nat.lt_of_le_of_lt (endOfLine_length ends) (grammar.readAndOr_length first)
  | case4 script list lexeme rest first goes plain => cases read
  | case5 script list lexeme rest first goes background separates later ends =>
    cases read
    have shorter := grammar.readAndOr_length first
    have within := endOfLine_length ends
    simp only [List.length_cons] at shorter
    omega
  | case6 script list lexeme rest first goes background separates onward ih =>
    obtain ⟨⟨others, last⟩, inner, same⟩ := Option.map_eq_some_iff.mp read
    cases same
    have shorter := grammar.readAndOr_length first
    have within := ih inner
    simp only [List.length_cons] at shorter
    omega

variable {grammar} in
theorem readLine_items {script left : List (Lexeme T)} {items : List (Item P)}
    (read : grammar.readLine script = some (items, left)) : items ≠ [] := by
  cases first : grammar.readAndOr script with
  | none =>
    rw [readLine_none first] at read
    cases read
  | some found =>
    rw [readLine_some first] at read
    split at read
    · cases read
      simp
    · split at read
      · cases read
        simp
      · split at read
        · cases read
        · split at read
          · cases read
            simp
          · obtain ⟨inner, -, same⟩ := Option.map_eq_some_iff.mp read
            cases same
            simp

/-- All lines, up to one that cannot be read. -/
def readScript (script : List (Lexeme T)) : Script P :=
  match _ : skipNewlines script with
  | [] => ⟨[], true⟩
  | lexeme :: rest =>
    match _ : grammar.readLine (lexeme :: rest) with
    | none => ⟨[], false⟩
    | some (items, later) =>
      let others := readScript later
      ⟨items ++ others.items, others.complete⟩
termination_by script.length
decreasing_by
  have shorter := grammar.readLine_length ‹grammar.readLine _ = _›
  have skipped := skipNewlines_length script
  rw [‹skipNewlines script = _›] at skipped
  omega

variable {grammar} in
theorem readScript_of {script lines : List (Lexeme T)} (skipped : skipNewlines script = lines)
    (there : lines ≠ []) :
    grammar.readScript script =
      match grammar.readLine lines with
      | none => ⟨[], false⟩
      | some (items, later) =>
        { items := items ++ (grammar.readScript later).items
          complete := (grammar.readScript later).complete } := by
  subst skipped
  rw [readScript]
  split
  · next empty => exact absurd empty there
  · next lexeme rest same =>
    rw [same]
    split
    · next missing => rw [missing]
    · next items later found => rw [found]

/-! ## A pipeline in front -/

/-- However a script goes on, what it starts with is one pipeline in front of `&&`. -/
structure Opens (front : List (Lexeme T)) (first : P) : Prop where
  reads : ∀ rest, grammar.pipeline (front ++ .and :: rest) = some (first, .and :: rest)
  starts : ∀ rest, skipNewlines (front ++ rest) = front ++ rest

variable {grammar} {front : List (Lexeme T)} {first : P}

theorem readAndOr_behind (opens : grammar.Opens front first) (rest : List (Lexeme T)) :
    grammar.readAndOr (front ++ .and :: rest) =
      (grammar.readAndOr (skipNewlines rest)).map fun (list, left) =>
        (list.behind first, left) := by
  have tail : grammar.readTail (.and :: rest) =
      (grammar.readAndOr (skipNewlines rest)).map fun (list, left) =>
        ((.and, list.head) :: list.tail, left) := by
    rw [readTail, readAndOr]
    simp only [connectorOf]
    split
    · next missing =>
      rw [missing]
      rfl
    · next found behind read =>
      rw [read]
      simp only [Option.map_map]
      rfl
  rw [readAndOr, opens.reads]
  simp only [tail, Option.map_map]
  rfl

theorem readLine_behind (opens : grammar.Opens front first) (rest : List (Lexeme T)) :
    grammar.readLine (front ++ .and :: rest) =
      (grammar.readLine (skipNewlines rest)).map fun (items, left) =>
        (items.modifyHead fun item => ⟨item.list.behind first, item.background⟩, left) := by
  have joined := readAndOr_behind opens rest
  cases inner : grammar.readAndOr (skipNewlines rest) with
  | none =>
    rw [inner] at joined
    rw [readLine_none joined, readLine_none inner]
    rfl
  | some read =>
    obtain ⟨list, left⟩ := read
    rw [inner] at joined
    rw [readLine_some joined, readLine_some inner]
    cases left with
    | nil => rfl
    | cons lexeme later =>
      dsimp only
      cases endOfLine (lexeme :: later) with
      | some behind => rfl
      | none =>
        cases separatorOf lexeme with
        | none => rfl
        | some background =>
          dsimp only
          cases endOfLine later with
          | some behind => rfl
          | none =>
            simp only [Option.map_map]
            rfl

theorem readScript_blank {script : List (Lexeme T)} :
    grammar.readScript script = ⟨[], true⟩ ↔ skipNewlines script = [] := by
  constructor
  · intro blank
    by_contra there
    rw [readScript_of rfl there] at blank
    cases read : grammar.readLine (skipNewlines script) with
    | none =>
      rw [read] at blank
      cases blank
    | some found =>
      obtain ⟨items, left⟩ := found
      rw [read] at blank
      have none_left := congrArg Script.items blank
      exact readLine_items read (List.append_eq_nil_iff.mp none_left).1
  · intro skipped
    rw [readScript]
    split
    · rfl
    · next same =>
      rw [same] at skipped
      cases skipped

theorem readScript_behind (opens : grammar.Opens front first) (rest : List (Lexeme T)) :
    grammar.readScript (front ++ .and :: rest) = (grammar.readScript rest).behind first := by
  have line := readLine_behind opens rest
  have more : front ++ .and :: rest ≠ [] := by simp
  have starts := opens.starts (.and :: rest)
  cases skipped : skipNewlines rest with
  | nil =>
    have empty : grammar.readLine ([] : List (Lexeme T)) = none := by
      cases read : grammar.readLine [] with
      | none => rfl
      | some found => exact absurd (grammar.readLine_length read) (Nat.not_lt_zero _)
    rw [skipped, empty] at line
    rw [readScript_of starts more, line, readScript_blank.mpr skipped]
    rfl
  | cons lexeme later =>
    have there : skipNewlines rest ≠ [] := by simp [skipped]
    rw [readScript_of starts more, readScript_of rfl there, line]
    cases read : grammar.readLine (skipNewlines rest) with
    | none => rfl
    | some found =>
      obtain ⟨items, left⟩ := found
      obtain ⟨item, others, rfl⟩ := List.exists_cons_of_ne_nil (readLine_items read)
      rfl

end Grammar

/-- The status of the last list; or the shell did not get there. -/
inductive Ending where
  | status (succeeded : Bool)
  | stopped
  | unreadable
  deriving DecidableEq, Repr

def Connector.goesOn : Connector → Bool → Bool
  | .and, succeeded => succeeded
  | .or, succeeded => !succeeded

section
variable (run : P → S → S × Option Bool)

/-- The pipelines that a list starts, each with the state it is started in; the state behind them
and the status. A pipeline without a status never returns, or takes the shell with it. -/
def runTail (state : S) (succeeded : Bool) :
    List (Connector × P) → List (P × S) × S × Option Bool
  | [] => ([], state, some succeeded)
  | (connector, pipeline) :: rest =>
      if connector.goesOn succeeded then
        match run pipeline state with
        | (after, none) => ([(pipeline, state)], after, none)
        | (after, some succeeded) =>
          let (started, last, result) := runTail after succeeded rest
          ((pipeline, state) :: started, last, result)
      else runTail state succeeded rest

def runAndOr (state : S) (list : AndOr P) : List (P × S) × S × Option Bool :=
  runTail run state true ((.and, list.head) :: list.tail)

/-- A list in the background runs in a copy of the shell, which goes on as it was. -/
def runItems (state : S) (succeeded : Bool) : List (Item P) → List (P × S) × Ending
  | [] => ([], .status succeeded)
  | item :: rest =>
      let (started, after, result) := runAndOr run state item.list
      if item.background then
        let (others, ending) := runItems state true rest
        (started ++ others, ending)
      else
        match result with
        | none => (started, .stopped)
        | some succeeded =>
          let (others, ending) := runItems after succeeded rest
          (started ++ others, ending)

def runScript (state : S) (script : Script P) : List (P × S) × Ending :=
  let (started, ending) := runItems run state true script.items
  (started, if script.complete ∨ ending = .stopped then ending else .unreadable)

variable {run}

variable (run) in
/-- Behind a failure a list starts nothing exactly if `&&` joins all of it. -/
theorem runTail_failed (state : S) (tail : List (Connector × P)) :
    ((runTail run state false tail).1 = [] ↔ ∀ joined ∈ tail, joined.1 = .and) ∧
      ((runTail run state false tail).1 = [] →
        (runTail run state false tail).2 = (state, some false)) := by
  induction tail with
  | nil => simp [runTail]
  | cons joined rest ih =>
    obtain ⟨connector, pipeline⟩ := joined
    cases connector with
    | and => simpa [runTail, Connector.goesOn] using ih
    | or =>
      have started : (runTail run state false ((.or, pipeline) :: rest)).1 ≠ [] := by
        rw [runTail]
        simp only [Connector.goesOn, Bool.not_false, if_true]
        split <;> simp
      refine ⟨⟨fun nothing => absurd nothing started, fun joins => ?_⟩,
        fun nothing => absurd nothing started⟩
      cases joins (.or, pipeline) (by simp)

variable (run) in
theorem runAndOr_starts (state : S) (list : AndOr P) : (runAndOr run state list).1 ≠ [] := by
  rw [runAndOr, runTail]
  simp only [Connector.goesOn, if_true]
  split <;> simp

theorem runItems_starts {state : S} {succeeded : Bool} {items : List (Item P)} :
    (runItems run state succeeded items).1 = [] ↔ items = [] := by
  cases items with
  | nil => simp [runItems]
  | cons item rest =>
    have started := runAndOr_starts run state item.list
    rw [runItems]
    dsimp only
    split
    · simp [started]
    · split <;> simp [started]

/-- One list all of whose pipelines `&&` joins, or a line that cannot be read. -/
def Script.Conjunctive (script : Script P) : Prop :=
  match script.items with
  | [] => script.complete = false
  | [item] => ∀ joined ∈ item.list.tail, joined.1 = .and
  | _ => False

variable {first : P} {state there : S}

theorem runAndOr_behind_failed (fails : run first state = (state, some false)) (list : AndOr P) :
    runAndOr run state (list.behind first) =
      ((first, state) :: (runTail run state false list.tail).1,
        (runTail run state false list.tail).2) := by
  rw [runAndOr, runTail]
  simp only [Connector.goesOn, if_true, AndOr.behind, fails, runTail]
  rfl

theorem runAndOr_behind_succeeded (succeeds : run first state = (there, some true))
    (list : AndOr P) :
    runAndOr run state (list.behind first) =
      ((first, state) :: (runAndOr run there list).1, (runAndOr run there list).2) := by
  rw [runAndOr, runTail]
  simp only [Connector.goesOn, if_true, AndOr.behind, succeeds]
  rfl

/-- Behind a pipeline that fails, the script starts nothing else exactly if it is one list that
`&&` joins. -/
theorem runScript_behind_failed (fails : run first state = (state, some false)) (item : Item P)
    (others : List (Item P)) (complete : Bool) :
    (runScript run state ((⟨item :: others, complete⟩ : Script P).behind first)).1 <+:
        [(first, state)] ↔
      (⟨item :: others, complete⟩ : Script P).Conjunctive := by
  obtain ⟨joins, stays⟩ := runTail_failed run state item.list.tail
  have only : ∀ more : List (P × S),
      (first, state) :: more <+: [(first, state)] ↔ more = [] := by simp
  have conjunctive : (⟨item :: others, complete⟩ : Script P).Conjunctive ↔
      others = [] ∧ ∀ joined ∈ item.list.tail, joined.1 = .and := by
    cases others <;> simp [Script.Conjunctive]
  rw [conjunctive, runScript, ← joins]
  simp only [Script.behind, runItems, runAndOr_behind_failed fails]
  split
  · rw [List.cons_append, only, List.append_eq_nil_iff, runItems_starts, and_comm]
  · split
    · next stopped =>
      rw [only]
      refine ⟨fun nothing => ?_, And.right⟩
      rw [stays nothing] at stopped
      cases stopped
    · rw [List.cons_append, only, List.append_eq_nil_iff, runItems_starts, and_comm]

theorem runScript_behind_succeeded (succeeds : run first state = (there, some true))
    (item : Item P) (complete : Bool) :
    runScript run state ((⟨[item], complete⟩ : Script P).behind first) =
      ((first, state) :: (runScript run there ⟨[item], complete⟩).1,
        (runScript run there ⟨[item], complete⟩).2) := by
  simp only [Script.behind, runScript, runItems, runAndOr_behind_succeeded succeeds]
  split
  · rfl
  · cases (runAndOr run there item.list).2.2 <;> rfl

end

end Mult.Foundation.Shell
