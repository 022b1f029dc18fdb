import Mult.Foundation.Base64
import Mult.Foundation.Text
import Mult.Foundation.Utf8
import Mult.Protocol.Messages

/-! Copying to the clipboard of the host terminal, and how the terminal and `tmux` read what is
written for that.
-/

set_option autoImplicit false

namespace Mult.Runtime
open Foundation Protocol

def base64Table : List Char :=
  "ABCDEFGHIJKLMNOPQRSTUVWXYZabcdefghijklmnopqrstuvwxyz0123456789+/".toList

def base64Chunk (chunk : Bytes) : List Char :=
  let first := (chunk[0]?.getD 0).toNat
  let second := (chunk[1]?.getD 0).toNat
  let third := (chunk[2]?.getD 0).toNat
  let bits := (first <<< 16) ||| (second <<< 8) ||| third
  let digit (place : Nat) := base64Table[(bits >>> place) &&& 0x3F]?.getD '='
  [digit 18, digit 12, if 1 < chunk.length then digit 6 else '=',
    if 2 < chunk.length then digit 0 else '=']

def base64Chunks : Bytes → List Char
  | [] => []
  | first :: second :: third :: rest => base64Chunk [first, second, third] ++ base64Chunks rest
  | chunk => base64Chunk chunk

def base64Encode (input : Bytes) : String := String.ofList (base64Chunks input)

def intoBytes (text : String) : Bytes := Utf8.encode text.toList

def osc52ClipboardSequence (encoded : String) (tmuxPassthrough : Bool) : Bytes :=
  let sequence := "\x1b]52;c;" ++ encoded ++ "\x07"
  if tmuxPassthrough then
    intoBytes ("\x1bPtmux;" ++ Text.replace sequence '\x1b' "\x1b\x1b" ++ "\x1b\\")
  else intoBytes sequence

def maxHostTerminalWriteBytes : Nat := 1024 * 1024

/-- A write beyond the budget is dropped as a whole. -/
def queueHostTerminalWrite (queued bytes : Bytes) : Bytes :=
  if queued.length + bytes.length ≤ maxHostTerminalWriteBytes then queued ++ bytes else queued

def copyTextToClipboard (clipboardOsc52 insideTmux : Bool) (queued : Bytes) (text : String) :
    Bool × Bytes :=
  if text = "" ∨ clipboardOsc52 = false then (false, queued)
  else (true, queueHostTerminalWrite queued
    (osc52ClipboardSequence (base64Encode (intoBytes text)) insideTmux))

def escapeByte : UInt8 := 0x1B
def bellByte : UInt8 := 0x07

/-- The text of a control string up to its end, and what follows. A byte that is not printable
would end it early or become part of it. -/
def controlString : Bytes → Option (Bytes × Bytes)
  | [] => none
  | byte :: rest =>
    if byte = bellByte then some ([], rest)
    else if 0x20 ≤ byte ∧ byte < 0x7F then
      (controlString rest).map fun read => (byte :: read.1, read.2)
    else none

def setsClipboard : Bytes := [escapeByte, 0x5D, 0x35, 0x32, 0x3B, 0x63, 0x3B]

/-- What the terminal puts on its clipboard, and what it reads next. -/
def readClipboard (bytes : Bytes) : Option (Bytes × Bytes) := do
  let rest ← setsClipboard.isPrefixOf? bytes
  let (payload, rest) ← controlString rest
  let text ← Base64.decode (payload.map fun byte => Char.ofNat byte.toNat)
  some (text, rest)

/-- What `tmux` passes through up to the end of the string: an escaped byte stands for itself. -/
def passedThrough : Bytes → Option (Bytes × Bytes)
  | [] => none
  | [_] => none
  | byte :: second :: rest =>
    if byte = escapeByte then
      if second = 0x5C then some ([], rest)
      else (passedThrough rest).map fun read => (second :: read.1, read.2)
    else (passedThrough (second :: rest)).map fun read => (byte :: read.1, read.2)

def passesThrough : Bytes := [escapeByte, 0x50, 0x74, 0x6D, 0x75, 0x78, 0x3B]

/-- What comes to be on the clipboard, with `tmux` in between or not. -/
def readByHost (insideTmux : Bool) (bytes : Bytes) : Option (Bytes × Bytes) :=
  if insideTmux then do
    let rest ← passesThrough.isPrefixOf? bytes
    let (passed, rest) ← passedThrough rest
    let (text, left) ← readClipboard passed
    if left = [] then some (text, rest) else none
  else readClipboard bytes

theorem chunk_bits (first second third : UInt8) :
    (first.toNat <<< 16) ||| (second.toNat <<< 8) ||| third.toNat =
      first.toNat * 65536 + second.toNat * 256 + third.toNat := by
  have small : third.toNat < 2 ^ 8 := third.toNat_lt
  have below : second.toNat <<< 8 ||| third.toNat < 2 ^ 16 := by
    have := second.toNat_lt
    rw [← Nat.shiftLeft_add_eq_or_of_lt small, Nat.shiftLeft_eq]
    omega
  rw [Nat.or_assoc, ← Nat.shiftLeft_add_eq_or_of_lt below, ← Nat.shiftLeft_add_eq_or_of_lt small,
    Nat.shiftLeft_eq, Nat.shiftLeft_eq]
  omega

theorem tableDigit (bits place : Nat) :
    base64Table[(bits >>> place) &&& 0x3F]?.getD '=' = Base64.digit (bits / 2 ^ place % 64) := by
  rw [show 0x3F = 2 ^ 6 - 1 from rfl, Nat.and_two_pow_sub_one_eq_mod, Nat.shiftRight_eq_div_pow]
  rfl

theorem base64Chunk_digits (chunk : Bytes) :
    let bits := (chunk[0]?.getD 0).toNat * 65536 + (chunk[1]?.getD 0).toNat * 256 +
      (chunk[2]?.getD 0).toNat
    base64Chunk chunk = [Base64.digit (bits / 262144 % 64), Base64.digit (bits / 4096 % 64),
      if 1 < chunk.length then Base64.digit (bits / 64 % 64) else Base64.padding,
      if 2 < chunk.length then Base64.digit (bits % 64) else Base64.padding] := by
  unfold base64Chunk
  simp only [chunk_bits, tableDigit, Nat.pow_zero, Nat.div_one]
  rfl

theorem bytes_of_bits (first second third : UInt8) :
    let bits := first.toNat * 65536 + second.toNat * 256 + third.toNat
    bits / 262144 % 64 * 4 + bits / 4096 % 64 / 16 = first.toNat ∧
      bits / 4096 % 64 % 16 * 16 + bits / 64 % 64 / 4 = second.toNat ∧
      bits / 64 % 64 % 4 * 64 + bits % 64 = third.toNat := by
  have := first.toNat_lt
  have := second.toNat_lt
  have := third.toNat_lt
  refine ⟨?_, ?_, ?_⟩ <;> omega

theorem decode_base64Chunks (input : Bytes) : Base64.decode (base64Chunks input) = some input := by
  have within : ∀ value, value % 64 < 64 := fun value => Nat.mod_lt value (by decide)
  induction input using base64Chunks.induct with
  | case1 => rfl
  | case2 first second third rest ih =>
    obtain ⟨one, two, three⟩ := bytes_of_bits first second third
    rw [base64Chunks, base64Chunk_digits, if_pos (by simp), if_pos (by simp)]
    simp only [List.cons_append, List.nil_append, Base64.decode]
    rw [Base64.decodeGroup_three (within _) (within _) (within _) (within _), ih]
    simp only [List.getElem?_cons_zero, List.getElem?_cons_succ, Option.getD_some]
    rw [one, two, three]
    simp
  | case3 chunk filled several =>
    rcases chunk with _ | ⟨first, _ | ⟨second, _ | ⟨third, rest⟩⟩⟩
    · exact absurd rfl filled
    · obtain ⟨one, -, -⟩ := bytes_of_bits first 0 0
      have even : (first.toNat * 65536 + (0 : UInt8).toNat * 256 + (0 : UInt8).toNat) / 4096 % 64 %
          16 = 0 := by
        simp
        omega
      change Base64.decode (base64Chunk [first]) = some [first]
      rw [base64Chunk_digits, if_neg (by simp), if_neg (by simp)]
      simp only [List.getElem?_cons_zero, List.getElem?_cons_succ, List.getElem?_nil,
        Option.getD_some, Option.getD_none, Base64.decode, List.isEmpty_nil]
      rw [Base64.decodeGroup_one (within _) (within _) even, one]
      simp
    · obtain ⟨one, two, -⟩ := bytes_of_bits first second 0
      have even : (first.toNat * 65536 + second.toNat * 256 + (0 : UInt8).toNat) / 64 % 64 % 4 =
          0 := by
        simp
        omega
      change Base64.decode (base64Chunk [first, second]) = some [first, second]
      rw [base64Chunk_digits, if_pos (by simp), if_neg (by simp)]
      simp only [List.getElem?_cons_zero, List.getElem?_cons_succ, List.getElem?_nil,
        Option.getD_some, Option.getD_none, Base64.decode, List.isEmpty_nil]
      rw [Base64.decodeGroup_two (within _) (within _) (within _) even, one, two]
      simp
    · exact absurd rfl (several first second third rest)

theorem base64Chunks_mem (input : Bytes) :
    ∀ c ∈ base64Chunks input, c ∈ Base64.alphabet ∨ c = Base64.padding := by
  have within : ∀ value, Base64.digit (value % 64) ∈ Base64.alphabet :=
    fun value => Base64.digit_mem (Nat.mod_lt value (by decide))
  have chunk : ∀ chunk, ∀ c ∈ base64Chunk chunk, c ∈ Base64.alphabet ∨ c = Base64.padding := by
    intro chunk c member
    rw [base64Chunk_digits] at member
    simp only [List.mem_cons, List.not_mem_nil, or_false] at member
    rcases member with rfl | rfl | rfl | rfl
    · exact .inl (within _)
    · exact .inl (within _)
    · split
      · exact .inl (within _)
      · exact .inr rfl
    · split
      · exact .inl (within _)
      · exact .inr rfl
  induction input using base64Chunks.induct with
  | case1 =>
    intro c member
    cases member
  | case2 first second third rest ih =>
    rw [base64Chunks]
    intro c member
    rcases List.mem_append.mp member with here | later
    · exact chunk _ c here
    · exact ih c later
  | case3 bytes filled several =>
    rw [base64Chunks.eq_3 bytes filled several]
    exact chunk bytes

theorem base64Chunks_printable (input : Bytes) :
    ∀ c ∈ base64Chunks input, 0x20 ≤ c.toNat ∧ c.toNat < 0x7F := by
  have all : (Base64.padding :: Base64.alphabet).all fun c =>
      decide (0x20 ≤ c.toNat ∧ c.toNat < 0x7F) := by
    decide
  intro c member
  refine of_decide_eq_true (List.all_eq_true.mp all c ?_)
  rcases base64Chunks_mem input c member with digit | rfl
  · exact List.mem_cons_of_mem _ digit
  · exact List.mem_cons_self

def payloadOf (input : Bytes) : Bytes := (base64Chunks input).map fun c => UInt8.ofNat c.toNat

theorem encode_base64Chunks (input : Bytes) : Utf8.encode (base64Chunks input) = payloadOf input :=
  Utf8.encode_ascii fun c member => Nat.lt_succ_of_lt (base64Chunks_printable input c member).2

theorem payloadOf_printable (input : Bytes) : ∀ byte ∈ payloadOf input, 0x20 ≤ byte ∧ byte < 0x7F := by
  intro byte member
  obtain ⟨c, listed, rfl⟩ := List.mem_map.mp member
  obtain ⟨above, below⟩ := base64Chunks_printable input c listed
  have same : (UInt8.ofNat c.toNat).toNat = c.toNat := by
    rw [UInt8.toNat_ofNat']
    omega
  rw [UInt8.le_iff_toNat_le, UInt8.lt_iff_toNat_lt, same]
  exact ⟨above, below⟩

theorem payloadOf_text (input : Bytes) :
    (payloadOf input).map (fun byte => Char.ofNat byte.toNat) = base64Chunks input := by
  rw [payloadOf, List.map_map]
  refine (List.map_congr_left fun c member => ?_).trans (List.map_id _)
  have below := (base64Chunks_printable input c member).2
  rw [Function.comp_apply, UInt8.toNat_ofNat', Nat.mod_eq_of_lt (by omega), Char.ofNat_toNat]
  rfl

theorem sequence_plain (input : Bytes) :
    osc52ClipboardSequence (base64Encode input) false =
      setsClipboard ++ (payloadOf input ++ [bellByte]) := by
  have before : Utf8.encode "\x1b]52;c;".toList = setsClipboard := by decide
  have after : Utf8.encode "\x07".toList = [bellByte] := by decide
  simp only [osc52ClipboardSequence, intoBytes, base64Encode, String.toList_append,
    String.toList_ofList, Utf8.encode_append, before, after, encode_base64Chunks]
  simp

theorem sequence_passed (input : Bytes) :
    osc52ClipboardSequence (base64Encode input) true =
      passesThrough ++ (escapeByte :: (setsClipboard ++ (payloadOf input ++ [bellByte])) ++
        [escapeByte, 0x5C]) := by
  have before : Utf8.encode "\x1bPtmux;\x1b\x1b]52;c;".toList =
      passesThrough ++ escapeByte :: setsClipboard := by decide
  have after : Utf8.encode "\x07\x1b\\".toList = [bellByte, escapeByte, 0x5C] := by decide
  have unescaped : (base64Chunks input).flatMap
      (fun c => if c = '\x1b' then "\x1b\x1b".toList else [c]) = base64Chunks input := by
    refine (List.flatMap_congr fun c member => if_neg ?_).trans (List.flatMap_singleton' _)
    rintro rfl
    exact absurd (base64Chunks_printable input _ member).1 (by decide)
  have doubled : ("\x1bPtmux;" ++ Text.replace ("\x1b]52;c;" ++ base64Encode input ++ "\x07") '\x1b'
      "\x1b\x1b" ++ "\x1b\\").toList =
        "\x1bPtmux;\x1b\x1b]52;c;".toList ++ (base64Chunks input ++ "\x07\x1b\\".toList) := by
    simp only [Text.replace, base64Encode, String.toList_append, String.toList_ofList,
      List.flatMap_append, unescaped]
    simp
  rw [osc52ClipboardSequence, if_pos rfl, intoBytes, doubled, Utf8.encode_append,
    Utf8.encode_append, before, after, encode_base64Chunks]
  simp

theorem controlString_payload (input rest : Bytes) :
    controlString (payloadOf input ++ bellByte :: rest) = some (payloadOf input, rest) := by
  have printable := payloadOf_printable input
  generalize payloadOf input = payload at printable ⊢
  induction payload with
  | nil => rfl
  | cons byte bytes ih =>
    rw [List.forall_mem_cons] at printable
    have apart : byte ≠ bellByte := by
      rintro rfl
      exact absurd printable.1 (by decide)
    rw [List.cons_append, controlString, if_neg apart, if_pos printable.1, ih printable.2]
    rfl

theorem readClipboard_sequence (input rest : Bytes) :
    readClipboard (setsClipboard ++ (payloadOf input ++ bellByte :: rest)) = some (input, rest) := by
  have stripped : setsClipboard.isPrefixOf? (setsClipboard ++ (payloadOf input ++ bellByte :: rest)) =
      some (payloadOf input ++ bellByte :: rest) := rfl
  rw [readClipboard, stripped, Option.bind_eq_bind, Option.bind_some, controlString_payload]
  simp only [Option.bind_eq_bind, Option.bind_some]
  rw [payloadOf_text, decode_base64Chunks]
  rfl

theorem passedThrough_plain {plain : Bytes} (unescaped : escapeByte ∉ plain) (rest : Bytes) :
    passedThrough (plain ++ escapeByte :: 0x5C :: rest) = some (plain, rest) := by
  induction plain with
  | nil => rfl
  | cons byte plain ih =>
    rw [List.mem_cons, not_or] at unescaped
    have onward : passedThrough (byte :: (plain ++ escapeByte :: 0x5C :: rest)) =
        (passedThrough (plain ++ escapeByte :: 0x5C :: rest)).map
          fun read => (byte :: read.1, read.2) := by
      cases plain with
      | nil => rw [List.nil_append, passedThrough, if_neg (Ne.symm unescaped.1)]
      | cons second plain => rw [List.cons_append, passedThrough, if_neg (Ne.symm unescaped.1)]
    rw [List.cons_append, onward, ih unescaped.2]
    rfl

theorem escapeByte_not_mem (input : Bytes) :
    escapeByte ∉ setsClipboard.tail ++ (payloadOf input ++ [bellByte]) := by
  simp only [List.mem_append, not_or]
  refine ⟨by decide, fun member => ?_, by decide⟩
  exact absurd (payloadOf_printable input _ member).1 (by decide)

theorem readByHost_sequence (insideTmux : Bool) (input rest : Bytes) :
    readByHost insideTmux (osc52ClipboardSequence (base64Encode input) insideTmux ++ rest) =
      some (input, rest) := by
  cases insideTmux with
  | false =>
    rw [sequence_plain, List.append_assoc, List.append_assoc]
    exact readClipboard_sequence input rest
  | true =>
    have passed : passedThrough (escapeByte :: (setsClipboard ++ (payloadOf input ++ [bellByte])) ++
        escapeByte :: 0x5C :: rest) = some (setsClipboard ++ (payloadOf input ++ [bellByte]), rest) := by
      have plain := passedThrough_plain (escapeByte_not_mem input) rest
      change (passedThrough (setsClipboard.tail ++ (payloadOf input ++ [bellByte]) ++
        escapeByte :: 0x5C :: rest)).map (fun read => (escapeByte :: read.1, read.2)) = _
      rw [plain]
      rfl
    have stripped : ∀ bytes, passesThrough.isPrefixOf? (passesThrough ++ bytes) = some bytes :=
      fun bytes => rfl
    have whole : osc52ClipboardSequence (base64Encode input) true ++ rest =
        passesThrough ++ (escapeByte :: (setsClipboard ++ (payloadOf input ++ [bellByte])) ++
          escapeByte :: 0x5C :: rest) := by
      simp [sequence_passed]
    rw [whole, readByHost, if_pos rfl, stripped]
    simp only [Option.bind_eq_bind, Option.bind_some, passed, readClipboard_sequence input []]
    rfl

/-- Every text that is copied is queued as a whole or, beyond the budget of the queue, not at all;
and what is queued for it the host reads as the bytes of the text, wherever in the stream. -/
theorem clipboard_round_trip (clipboardOsc52 insideTmux : Bool) (queued : Bytes) (text : String) :
    let sequence := osc52ClipboardSequence (base64Encode (intoBytes text)) insideTmux
    (∀ rest, readByHost insideTmux (sequence ++ rest) = some (intoBytes text, rest)) ∧
      copyTextToClipboard clipboardOsc52 insideTmux queued text =
        if text = "" ∨ clipboardOsc52 = false then (false, queued)
        else if queued.length + sequence.length ≤ maxHostTerminalWriteBytes then
          (true, queued ++ sequence)
        else (true, queued) := by
  intro sequence
  refine ⟨readByHost_sequence insideTmux (intoBytes text), ?_⟩
  unfold copyTextToClipboard queueHostTerminalWrite
  split
  · rfl
  · split <;> rfl

/-- A text with an escape and a bell, within `tmux`. -/
example : readByHost true ((copyTextToClipboard true true [] "\x1b\\é\x07").2 ++ [0x41]) =
    some ([0x1B, 0x5C, 0xC3, 0xA9, 0x07], [0x41]) := by decide +kernel

end Mult.Runtime
