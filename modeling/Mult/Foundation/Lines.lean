import Mathlib

/-! Logs of separated records: the records written so far, each closed by the separator,
and after them whatever an interrupted write left.
-/

set_option autoImplicit false

namespace Mult.Foundation

variable {α : Type}

def joined (separator : α) (records : List (List α)) : List α :=
  records.flatMap (· ++ [separator])

theorem joined_append (separator : α) (first second : List (List α)) :
    joined separator (first ++ second) = joined separator first ++ joined separator second :=
  List.flatMap_append

theorem joined_singleton (separator : α) (record : List α) :
    joined separator [record] = record ++ [separator] := by
  simp [joined]

theorem joined_cons (separator : α) (record : List α) (rest : List (List α)) :
    joined separator (record :: rest) = record ++ separator :: joined separator rest := by
  simp [joined]

theorem length_le_length_joined (separator : α) (records : List (List α)) :
    records.length ≤ (joined separator records).length := by
  induction records with
  | nil => exact Nat.zero_le _
  | cons record rest ih =>
    simp only [joined_cons, List.length_cons, List.length_append]
    omega

theorem joined_eq_intercalate (separator : α) {records : List (List α)} (some : records ≠ []) :
    joined separator records = List.intercalate [separator] records ++ [separator] := by
  induction records with
  | nil => exact absurd rfl some
  | cons record rest ih =>
    cases rest with
    | nil => simp [joined, List.intercalate]
    | cons second others =>
      rw [joined_cons, ih (List.cons_ne_nil _ _)]
      simp [List.intercalate, List.intersperse]

/-- The position of the last element that passes. -/
def rposition (test : α → Bool) (bytes : List α) : Option Nat :=
  (bytes.reverse.findIdx? test).map fun behind => bytes.length - 1 - behind

theorem rposition_append_left {test : α → Bool} {bytes tail : List α}
    (clean : ∀ byte ∈ tail, test byte = false) :
    rposition test (bytes ++ tail) = rposition test bytes := by
  have absent : tail.reverse.findIdx? test = none := by
    rw [List.findIdx?_eq_none_iff]
    intro byte member
    exact clean byte (List.mem_reverse.mp member)
  unfold rposition
  rw [List.reverse_append, List.findIdx?_append, absent]
  cases bytes.reverse.findIdx? test with
  | none => rfl
  | some behind =>
    simp only [Option.none_or, Option.map_some, List.length_reverse, List.length_append]
    congr 1
    omega

theorem rposition_concat {test : α → Bool} {bytes : List α} {last : α}
    (passes : test last = true) : rposition test (bytes ++ [last]) = some bytes.length := by
  simp [rposition, List.findIdx?_cons, passes]

section Scanning

variable [DecidableEq α]

/-- Where the last closed record ends. -/
def lastComplete (separator : α) (bytes : List α) : Nat :=
  (rposition (· == separator) bytes).elim 0 (· + 1)

def stripSuffix (separator : α) (bytes : List α) : Option (List α) :=
  if bytes.getLast? = some separator then some bytes.dropLast else none

def closedRecords (separator : α) (complete : List α) : List (List α) :=
  (stripSuffix separator complete).elim [] (List.splitOn separator)

/-- The closed records of a log whose last record may be torn. -/
def lines (separator : α) (bytes : List α) : List (List α) :=
  closedRecords separator (bytes.take (lastComplete separator bytes))

theorem lastComplete_joined (separator : α) {records : List (List α)} {tail : List α}
    (torn : separator ∉ tail) :
    lastComplete separator (joined separator records ++ tail) =
      (joined separator records).length := by
  have clean : ∀ byte ∈ tail, (byte == separator) = false := by
    intro byte member
    exact beq_eq_false_iff_ne.mpr fun same => torn (same ▸ member)
  unfold lastComplete
  rw [rposition_append_left clean]
  cases records with
  | nil => rfl
  | cons record rest =>
    rw [joined_eq_intercalate separator (List.cons_ne_nil _ _), rposition_concat (by simp)]
    simp

theorem closedRecords_joined (separator : α) {records : List (List α)}
    (clean : ∀ record ∈ records, separator ∉ record) :
    closedRecords separator (joined separator records) = records := by
  cases records with
  | nil => rfl
  | cons record rest =>
    rw [joined_eq_intercalate separator (List.cons_ne_nil _ _)]
    simp only [closedRecords, stripSuffix, List.getLast?_concat, List.dropLast_concat, if_true,
      Option.elim_some]
    exact List.splitOn_intercalate separator clean (List.cons_ne_nil _ _)

theorem exists_joined (separator : α) (bytes : List α) :
    ∃ records tail, bytes = joined separator records ++ tail ∧
      (∀ record ∈ records, separator ∉ record) ∧ separator ∉ tail := by
  induction bytes with
  | nil => exact ⟨[], [], rfl, by simp, by simp⟩
  | cons byte rest ih =>
    obtain ⟨records, tail, rfl, clean, torn⟩ := ih
    by_cases closes : byte = separator
    · exact ⟨[] :: records, tail, by rw [joined_cons, closes]; rfl, by simpa using clean, torn⟩
    · cases records with
      | nil =>
        refine ⟨[], byte :: tail, rfl, by simp, ?_⟩
        simpa using ⟨Ne.symm closes, torn⟩
      | cons record others =>
        refine ⟨(byte :: record) :: others, tail, by simp [joined_cons], ?_, torn⟩
        rw [List.forall_mem_cons] at clean ⊢
        exact ⟨by simpa using ⟨Ne.symm closes, clean.1⟩, clean.2⟩

theorem lines_joined_append {separator : α} {records : List (List α)} {tail : List α}
    (clean : ∀ record ∈ records, separator ∉ record) (torn : separator ∉ tail) :
    lines separator (joined separator records ++ tail) = records := by
  rw [lines, lastComplete_joined separator torn, List.take_left, closedRecords_joined _ clean]

theorem separator_notMem_lines {separator : α} {bytes record : List α}
    (listed : record ∈ lines separator bytes) : separator ∉ record := by
  obtain ⟨records, tail, rfl, clean, torn⟩ := exists_joined separator bytes
  rw [lines_joined_append clean torn] at listed
  exact clean record listed

theorem lines_append {separator : α} {first : List (List α)} (bytes : List α)
    (clean : ∀ record ∈ first, separator ∉ record) :
    lines separator (joined separator first ++ bytes) = first ++ lines separator bytes := by
  obtain ⟨records, tail, rfl, closed, torn⟩ := exists_joined separator bytes
  rw [lines_joined_append closed torn, ← List.append_assoc, ← joined_append]
  exact lines_joined_append (List.forall_mem_append.mpr ⟨clean, closed⟩) torn

theorem joined_lines_begins (separator : α) (bytes : List α) :
    joined separator (lines separator bytes) <+: bytes := by
  obtain ⟨records, tail, rfl, closed, torn⟩ := exists_joined separator bytes
  rw [lines_joined_append closed torn]
  exact List.prefix_append _ _

end Scanning

end Mult.Foundation
