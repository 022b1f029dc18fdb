import Mathlib.Data.String.Basic

/-! UTF-8 read with what is malformed replaced, and texts that come in pieces. -/

set_option autoImplicit false

namespace Mult.Foundation.Utf8

def encode (text : List Char) : List UInt8 := text.flatMap String.utf8EncodeChar

def replacementCharacter : Char := Char.ofNat 0xFFFD

def continues (byte : UInt8) : Bool := 0x80 ≤ byte && byte ≤ 0xBF

/-- How many bytes a character has whose encoding begins so; zero where none does. -/
def width (lead : UInt8) : Nat :=
  if lead < 0x80 then 1
  else if 0xC2 ≤ lead ∧ lead ≤ 0xDF then 2
  else if 0xE0 ≤ lead ∧ lead ≤ 0xEF then 3
  else if 0xF0 ≤ lead ∧ lead ≤ 0xF4 then 4
  else 0

def secondFits (lead second : UInt8) : Bool :=
  continues second &&
    if lead = 0xE0 then 0xA0 ≤ second
    else if lead = 0xED then second ≤ 0x9F
    else if lead = 0xF0 then 0x90 ≤ second
    else if lead = 0xF4 then second ≤ 0x8F
    else true

/-- How many of the bytes behind the lead begin a character with it. -/
def belonging (lead : UInt8) (rest : List UInt8) : Nat :=
  match width lead, rest with
  | more + 2, second :: others =>
      if secondFits lead second then ((others.take more).takeWhile continues).length + 1 else 0
  | _, _ => 0

/-- The first character and the bytes after it. The longest beginning of a character that is never
finished is replaced as a whole. -/
def readFirst (lead : UInt8) (rest : List UInt8) : Char × List UInt8 :=
  match (lead :: rest).toByteArray.utf8DecodeChar? 0 with
  | some c => (c, rest.drop (c.utf8Size - 1))
  | none => (replacementCharacter, rest.drop (belonging lead rest))

def lossyWithin : Nat → List UInt8 → List Char
  | _, [] => []
  | 0, _ :: _ => []
  | fuel + 1, lead :: rest =>
      (readFirst lead rest).1 :: lossyWithin fuel (readFirst lead rest).2

/-- The text of bytes that may be malformed. -/
def lossy (bytes : List UInt8) : List Char := lossyWithin bytes.length bytes

/-- The bytes that can begin a character. -/
def leads (bytes : List UInt8) : Nat := bytes.countP fun byte => decide byte.IsUTF8FirstByte

def AtBoundary (piece : List UInt8) : Prop := ∀ byte, piece.head? = some byte → byte.IsUTF8FirstByte

theorem encode_append (front back : List Char) :
    encode (front ++ back) = encode front ++ encode back :=
  List.flatMap_append

theorem encode_ascii {text : List Char} (ascii : ∀ c ∈ text, c.toNat < 0x80) :
    encode text = text.map fun c => UInt8.ofNat c.toNat := by
  induction text with
  | nil => rfl
  | cons c text ih =>
    rw [List.forall_mem_cons] at ascii
    have one : String.utf8EncodeChar c = [UInt8.ofNat c.toNat] := by
      have small : c.utf8Size = 1 :=
        Char.utf8Size_eq_one_iff.mpr (UInt32.le_iff_toNat_le.mpr (Nat.le_of_lt_succ ascii.1))
      rw [String.utf8EncodeChar_eq_singleton small]
      rfl
    rw [encode, List.flatMap_cons, one, List.map_cons, ← encode, ih ascii.2]
    rfl

theorem readFirst_length (lead : UInt8) (rest : List UInt8) :
    (readFirst lead rest).2.length ≤ rest.length := by
  unfold readFirst
  split <;> exact (List.drop_suffix _ _).length_le

theorem lossyWithin_congr {first second : Nat} {bytes : List UInt8} (enough : bytes.length ≤ first)
    (also : bytes.length ≤ second) : lossyWithin first bytes = lossyWithin second bytes := by
  induction first generalizing second bytes with
  | zero =>
    rw [List.eq_nil_of_length_eq_zero (Nat.le_zero.mp enough)]
    cases second <;> rfl
  | succ first ih =>
    cases bytes with
    | nil => cases second <;> rfl
    | cons lead rest =>
      rw [List.length_cons] at enough also
      have shorter := readFirst_length lead rest
      cases second with
      | zero => omega
      | succ second => rw [lossyWithin, lossyWithin, @ih second _ (by omega) (by omega)]

theorem lossy_cons (lead : UInt8) (rest : List UInt8) :
    lossy (lead :: rest) = (readFirst lead rest).1 :: lossy (readFirst lead rest).2 := by
  rw [lossy, List.length_cons, lossyWithin, lossy,
    lossyWithin_congr (readFirst_length lead rest) le_rfl]

theorem readFirst_encode {c : Char} {lead : UInt8} {bytes rest : List UInt8}
    (begins : lead :: bytes = String.utf8EncodeChar c ++ rest) :
    readFirst lead bytes = (c, rest) := by
  obtain ⟨size, same⟩ : ∃ size, c.utf8Size = size + 1 :=
    Nat.exists_eq_add_one.mpr c.utf8Size_pos
  have whole : (lead :: bytes).drop (size + 1) = rest := by
    rw [begins]
    exact List.drop_left' (by rw [String.length_utf8EncodeChar, same])
  unfold readFirst
  rw [begins, List.toByteArray_append, ByteArray.utf8DecodeChar?_utf8EncodeChar_append]
  dsimp only
  rw [same, Nat.add_sub_cancel, ← whole]
  rfl

theorem utf8EncodeChar_cons (c : Char) :
    ∃ lead tail, String.utf8EncodeChar c = lead :: tail ∧ lead.IsUTF8FirstByte ∧
      ∀ byte ∈ tail, ¬byte.IsUTF8FirstByte := by
  have first : ∀ {place : Nat} {within : place < (String.utf8EncodeChar c).length},
      (String.utf8EncodeChar c)[place].IsUTF8FirstByte ↔ place = 0 :=
    UInt8.isUTF8FirstByte_getElem_utf8EncodeChar
  have some : (String.utf8EncodeChar c).length = c.utf8Size := String.length_utf8EncodeChar c
  have positive := c.utf8Size_pos
  generalize String.utf8EncodeChar c = bytes at first some
  cases bytes with
  | nil =>
    rw [List.length_nil] at some
    omega
  | cons lead tail =>
    refine ⟨lead, tail, rfl, (@first 0 (Nat.zero_lt_succ _)).mpr rfl, fun byte member => ?_⟩
    obtain ⟨place, within, same⟩ := List.getElem_of_mem member
    have later := (@first (place + 1) (Nat.succ_lt_succ within)).not.mpr (Nat.succ_ne_zero place)
    rwa [List.getElem_cons_succ, same] at later

theorem lossy_encode_append (text : List Char) (rest : List UInt8) :
    lossy (encode text ++ rest) = text ++ lossy rest := by
  induction text with
  | nil => rfl
  | cons c text ih =>
    obtain ⟨lead, tail, same, -⟩ := utf8EncodeChar_cons c
    have split : encode (c :: text) ++ rest = lead :: (tail ++ (encode text ++ rest)) := by
      rw [encode, List.flatMap_cons, same, List.append_assoc]
      rfl
    have read : readFirst lead (tail ++ (encode text ++ rest)) = (c, encode text ++ rest) :=
      readFirst_encode (by rw [same]; rfl)
    rw [split, lossy_cons, read, ih]
    rfl

theorem not_isUTF8FirstByte_of_continues {byte : UInt8} (later : continues byte = true) :
    ¬byte.IsUTF8FirstByte := by
  have all : ∀ value : Fin 256, continues (UInt8.ofFin value) = true →
      ¬(UInt8.ofFin value).IsUTF8FirstByte := by decide +kernel
  exact all byte.toFin later

theorem belonging_continue (lead : UInt8) (rest : List UInt8) :
    ∀ byte ∈ rest.take (belonging lead rest), continues byte = true := by
  unfold belonging
  split
  · next more second others _ =>
    split
    · next fits =>
      have within : (others.take more).takeWhile continues <+: others :=
        (List.takeWhile_prefix _).trans (List.take_prefix ..)
      rw [List.take_succ_cons, ← List.prefix_iff_eq_take.mp within]
      intro byte member
      rcases List.mem_cons.mp member with rfl | later
      · exact (Bool.and_eq_true .. ▸ fits).1
      · exact List.all_eq_true.mp List.all_takeWhile byte later
    · exact fun byte member => nomatch member
  · exact fun byte member => nomatch member

theorem readFirst_split (lead : UInt8) (rest : List UInt8) :
    ∃ tail, rest = tail ++ (readFirst lead rest).2 ∧ ∀ byte ∈ tail, ¬byte.IsUTF8FirstByte := by
  cases decoded : (lead :: rest).toByteArray.utf8DecodeChar? 0 with
  | some c =>
    obtain ⟨left, begins⟩ := ByteArray.exists_of_utf8DecodeChar?_eq_some decoded
    have same : left = left.data.toList.toByteArray := ByteArray.ext (by simp)
    rw [same, ← List.toByteArray_append, List.toByteArray_inj] at begins
    obtain ⟨first, tail, encoded, -, later⟩ := utf8EncodeChar_cons c
    rw [readFirst_encode begins]
    rw [encoded] at begins
    exact ⟨tail, (List.cons.inj begins).2, later⟩
  | none =>
    refine ⟨rest.take (belonging lead rest), ?_, fun byte member => ?_⟩
    · rw [readFirst, decoded]
      exact (List.take_append_drop ..).symm
    · exact not_isUTF8FirstByte_of_continues (belonging_continue lead rest byte member)

theorem leads_append (front back : List UInt8) : leads (front ++ back) = leads front + leads back :=
  List.countP_append

theorem leads_eq_zero {bytes : List UInt8} (later : ∀ byte ∈ bytes, ¬byte.IsUTF8FirstByte) :
    leads bytes = 0 :=
  List.countP_eq_zero.mpr fun byte member => by simpa using later byte member

theorem leads_encode (text : List Char) : leads (encode text) = text.length := by
  induction text with
  | nil => rfl
  | cons c text ih =>
    obtain ⟨lead, tail, same, first, later⟩ := utf8EncodeChar_cons c
    have one : leads [lead] = 1 := by simp [leads, first]
    have whole : encode (c :: text) = [lead] ++ (tail ++ encode text) := by
      rw [encode, List.flatMap_cons, same]
      rfl
    rw [whole, leads_append, leads_append, leads_eq_zero later, one, ih, List.length_cons]
    omega

/-- Reading gives a character for each byte that can begin one, and one more for a start that
cannot. -/
theorem leads_le_lossy (bytes : List UInt8) :
    leads bytes ≤ (lossy bytes).length ∧ (¬AtBoundary bytes → leads bytes < (lossy bytes).length) := by
  induction size : bytes.length using Nat.strongRecOn generalizing bytes with
  | ind size ih =>
    cases bytes with
    | nil => exact ⟨le_rfl, fun inside => absurd nofun inside⟩
    | cons lead rest =>
      obtain ⟨tail, split, later⟩ := readFirst_split lead rest
      have shorter := readFirst_length lead rest
      have counted : leads (lead :: rest) = leads [lead] + leads (readFirst lead rest).2 := by
        rw [← List.singleton_append, leads_append]
        conv_lhs => rw [split, leads_append, leads_eq_zero later, Nat.zero_add]
      have others := (ih _ (by rw [← size, List.length_cons]; omega) (readFirst lead rest).2 rfl).1
      rw [counted, lossy_cons, List.length_cons]
      refine ⟨?_, fun inside => ?_⟩
      · have one : leads [lead] ≤ 1 := List.countP_le_length
        omega
      · have none : leads [lead] = 0 := by
          refine leads_eq_zero fun byte member first => inside fun other same => ?_
          rw [List.mem_singleton.mp member] at first
          cases same
          exact first
        omega

theorem AtBoundary.flatten {pieces : List (List UInt8)}
    (apart : ∀ piece ∈ pieces, AtBoundary piece) : AtBoundary pieces.flatten := by
  induction pieces with
  | nil => exact nofun
  | cons piece pieces ih =>
    rw [List.forall_mem_cons] at apart
    cases piece with
    | nil => exact ih apart.2
    | cons byte rest => exact fun other same => apart.1 other same

theorem encode_split {text : List Char} {piece rest : List UInt8}
    (whole : encode text = piece ++ rest) (boundary : AtBoundary rest) :
    ∃ front back, text = front ++ back ∧ piece = encode front ∧ rest = encode back := by
  induction text generalizing piece with
  | nil =>
    obtain ⟨rfl, rfl⟩ := List.append_eq_nil_iff.mp whole.symm
    exact ⟨[], [], rfl, rfl, rfl⟩
  | cons c text ih =>
    cases piece with
    | nil => exact ⟨[], c :: text, rfl, rfl, whole.symm⟩
    | cons byte piece =>
      obtain ⟨lead, tail, encoded, -, later⟩ := utf8EncodeChar_cons c
      have begins : encode (c :: text) = lead :: (tail ++ encode text) := by
        rw [encode, List.flatMap_cons, encoded]
        rfl
      rw [begins] at whole
      obtain ⟨rfl, others⟩ := List.cons.inj whole
      rcases List.append_eq_append_iff.mp others with ⟨left, rfl, onward⟩ | ⟨left, rfl, rfl⟩
      · obtain ⟨front, back, rfl, rfl, same⟩ := ih onward
        refine ⟨c :: front, back, rfl, ?_, same⟩
        rw [encode, encode, List.flatMap_cons, encoded]
        rfl
      · cases left with
        | nil =>
          refine ⟨[c], text, rfl, ?_, rfl⟩
          rw [encode, List.flatMap_singleton, encoded, List.append_nil]
        | cons inner left =>
          exact absurd (boundary inner rfl) (later inner (by simp))

theorem leads_le_pieces (pieces : List (List UInt8)) :
    leads pieces.flatten ≤ (pieces.flatMap lossy).length ∧
      ((∃ piece ∈ pieces, ¬AtBoundary piece) →
        leads pieces.flatten < (pieces.flatMap lossy).length) := by
  induction pieces with
  | nil => exact ⟨le_rfl, fun ⟨_, member, _⟩ => nomatch member⟩
  | cons piece pieces ih =>
    obtain ⟨least, more⟩ := leads_le_lossy piece
    rw [List.flatten_cons, leads_append, List.flatMap_cons, List.length_append]
    refine ⟨by omega, ?_⟩
    rintro ⟨inside, member, apart⟩
    rcases List.mem_cons.mp member with rfl | later
    · have := more apart
      omega
    · have := ih.2 ⟨inside, later, apart⟩
      omega

/-- Reading a text piece by piece gives the text exactly where no piece begins within a
character. -/
theorem lossy_pieces_iff {pieces : List (List UInt8)} {text : List Char}
    (whole : pieces.flatten = encode text) :
    pieces.flatMap lossy = text ↔ ∀ piece ∈ pieces, AtBoundary piece := by
  refine ⟨fun same => ?_, fun apart => ?_⟩
  · by_contra inside
    push Not at inside
    have more := (leads_le_pieces pieces).2 inside
    rw [whole, leads_encode, same] at more
    exact Nat.lt_irrefl _ more
  · induction pieces generalizing text with
    | nil =>
      have counted := leads_encode text
      rw [← whole] at counted
      exact (List.eq_nil_of_length_eq_zero counted.symm).symm
    | cons piece pieces ih =>
      rw [List.forall_mem_cons] at apart
      obtain ⟨front, back, rfl, rfl, rest⟩ := encode_split whole.symm (.flatten apart.2)
      have read : lossy (encode front) = front := by
        simpa [lossy, lossyWithin] using lossy_encode_append front []
      rw [List.flatMap_cons, ih rest apart.2, read]

end Mult.Foundation.Utf8
