import Mult.Foundation.JsonStrings

/-! How TOML reads a binding of a dotted key to a string, a number, an array or an inline table.

Literal strings and those of several lines, quoted keys, other numbers and lists that go over
several lines or end in a comma have no reading here.
-/

set_option autoImplicit false

namespace Mult.Foundation.Toml

inductive Value where
  | string (text : List Char)
  | integer (value : Nat)
  | array (items : List Value)
  | table (entries : List (List Char × Value))
  deriving Repr

/-- What is read at the front of a text, and the rest of it. -/
abbrev Reader (A : Type) := List Char → Option (A × List Char)

def isBlank (c : Char) : Bool := c = ' ' || c = '\t'

def skipBlanks (text : List Char) : List Char := text.dropWhile isBlank

def delete : Char := '\x7f'

/-- A basic string cannot hold the character as it is. -/
def forbidden (c : Char) : Bool := (c.toNat < 0x20 && c ≠ '\t') || c = delete

def push (c : Char) : List Char × List Char → List Char × List Char
  | (text, rest) => (c :: text, rest)

/-- The text of a basic string up to its closing quote. -/
def readBasic : Reader (List Char)
  | [] => none
  | c :: rest =>
      if c = '"' then some ([], rest)
      else if c = '\\' then
        match rest with
        | [] => none
        | letter :: rest =>
            if letter = 'u' then
              match rest with
              | a :: b :: c :: d :: rest =>
                  (Json.hexChar [a, b, c, d]).bind fun code => (readBasic rest).map (push code)
              | _ => none
            else if letter = 'U' then
              match rest with
              | a :: b :: c :: d :: e :: f :: g :: h :: rest =>
                  (Json.hexChar [a, b, c, d, e, f, g, h]).bind fun code =>
                    (readBasic rest).map (push code)
              | _ => none
            else (Json.shortEscape letter).bind fun meant => (readBasic rest).map (push meant)
      else if forbidden c then none
      else (readBasic rest).map (push c)

def readItems {A : Type} (item : Reader A) (close : Char) : (fuel : Nat) → Reader (List A)
  | 0, _ => none
  | fuel + 1, text =>
      match item (skipBlanks text) with
      | none => none
      | some (value, rest) =>
          match skipBlanks rest with
          | [] => none
          | c :: rest =>
              if c = ',' then
                (readItems item close fuel rest).map fun (values, rest) => (value :: values, rest)
              else if c = close then some ([value], rest)
              else none

def readList {A : Type} (item : Reader A) (close : Char) : Reader (List A) := fun text =>
  match skipBlanks text with
  | [] => none
  | c :: rest =>
      if c = close then some ([], rest) else readItems item close text.length (c :: rest)

def isBare (c : Char) : Bool := c.isAlphanum || c = '_' || c = '-'

def readKey : Reader (List Char) := fun text =>
  if (text.takeWhile isBare).isEmpty then none
  else some (text.takeWhile isBare, text.dropWhile isBare)

def readEntry (value : Reader Value) : Reader (List Char × Value) := fun text =>
  match readKey text with
  | none => none
  | some (key, rest) =>
      match skipBlanks rest with
      | [] => none
      | c :: rest =>
          if c = '=' then (value (skipBlanks rest)).map fun (value, rest) => ((key, value), rest)
          else none

/-- What numbers, dates and the like are made of. -/
def inNumber (c : Char) : Bool := isBare c || c = '.' || c = ':' || c = '+'

def isDecimal (digits : List Char) : Bool :=
  digits.all Char.isDigit && (digits = ['0'] || digits.head?.any (· ≠ '0'))

def decimal (digits : List Char) : Nat :=
  digits.foldl (fun sum digit => sum * 10 + (digit.toNat - '0'.toNat)) 0

def readNumber : Reader Value := fun text =>
  if isDecimal (text.takeWhile inNumber) then
    some (.integer (decimal (text.takeWhile inNumber)), text.dropWhile inNumber)
  else none

def readValue : (fuel : Nat) → Reader Value
  | 0, _ => none
  | _ + 1, [] => none
  | fuel + 1, c :: rest =>
      if c = '"' then
        match readBasic rest with
        | none => none
        | some (text, rest) =>
            -- Three quotes open a string of several lines.
            if text = [] ∧ rest.head? = some '"' then none else some (.string text, rest)
      else if c = '[' then
        (readList (readValue fuel) ']' rest).map fun (items, rest) => (.array items, rest)
      else if c = '\x7b' then
        match readList (readEntry (readValue fuel)) '\x7d' rest with
        | none => none
        | some (entries, rest) =>
            if (entries.map Prod.fst).Nodup then some (.table entries, rest) else none
      else readNumber (c :: rest)

def readPath : (fuel : Nat) → Reader (List (List Char))
  | 0, _ => none
  | fuel + 1, text =>
      match readKey text with
      | none => none
      | some (key, rest) =>
          match rest with
          | [] => some ([key], [])
          | c :: rest =>
              if c = '.' then (readPath fuel rest).map fun (path, rest) => (key :: path, rest)
              else some ([key], c :: rest)

def readBinding (line : List Char) : Option (List (List Char) × Value) :=
  match readPath line.length (skipBlanks line) with
  | none => none
  | some (path, rest) =>
      match skipBlanks rest with
      | [] => none
      | c :: rest =>
          if c = '=' then
            match readValue line.length (skipBlanks rest) with
            | none => none
            | some (value, rest) => if (skipBlanks rest).isEmpty then some (path, value) else none
          else none

section
variable (writer : Json.Writer)

theorem readBasic_plain {c : Char} (quote : c ≠ '"') (backslash : c ≠ '\\') (rest : List Char) :
    readBasic (c :: rest) = if forbidden c then none else (readBasic rest).map (push c) := by
  rw [readBasic.eq_def]
  simp only [if_neg quote, if_neg backslash]

theorem readBasic_escaped {c : Char} {escape : List Char} (read : Json.readEscape escape = some c)
    (rest : List Char) : readBasic (escape ++ rest) = (readBasic rest).map (push c) := by
  unfold Json.readEscape at read
  split at read
  · next letter =>
    have other : letter ≠ 'u' ∧ letter ≠ 'U' := by
      constructor <;> rintro rfl <;> cases read
    rw [List.cons_append, List.cons_append, List.nil_append, readBasic.eq_def]
    simp [other.1, other.2, read]
  · next a b c d =>
    simp only [List.cons_append, List.nil_append]
    rw [readBasic.eq_def]
    simp [read]
  · cases read

theorem readBasic_escape (c : Char) (rest : List Char) :
    readBasic (writer.escape c ++ rest) =
      if c = delete then none else (readBasic rest).map (push c) := by
  cases special : Json.mustEscape c with
  | true =>
    have kept : c ≠ delete := by
      rintro rfl
      cases special
    rw [readBasic_escaped (writer.escaped c special), if_neg kept]
  | false =>
    have common := special
    simp only [Json.mustEscape, Bool.or_eq_false_iff, decide_eq_false_iff_not] at common
    obtain ⟨⟨quote, backslash⟩, printed⟩ := common
    rw [writer.plain c special, List.singleton_append, readBasic_plain quote backslash]
    simp [forbidden, printed]

/-- The two languages agree on all that JSON writes but the delete character, which JSON leaves as
it is and TOML refuses. -/
theorem readBasic_write (text rest : List Char) :
    readBasic (text.flatMap writer.escape ++ '"' :: rest) =
      if delete ∈ text then none else some (text, rest) := by
  induction text with
  | nil =>
    rw [List.flatMap_nil, List.nil_append, readBasic.eq_def]
    simp
  | cons c text ih =>
    rw [List.flatMap_cons, List.append_assoc, readBasic_escape, ih]
    by_cases first : c = delete
    · simp [first]
    by_cases later : delete ∈ text
    · simp [first, later]
    · simp [first, later, Ne.symm first, push]

end

/-! ## What is read of a text whatever follows -/

def follows (c : Char) : Bool := c = ',' || c = ']' || c = '\x7d'

/-- The reader takes the text and nothing behind it. -/
def Gives {A : Type} (item : Reader A) (text : List Char) (value : A) : Prop :=
  ∀ rest : List Char, rest.head?.all follows = true → item (text ++ rest) = some (value, rest)

def Refuses {A : Type} (item : Reader A) (text : List Char) : Prop :=
  ∀ rest, item (text ++ rest) = none

/-- The text does not begin with a blank, and not with what closes a list. -/
def opens (text : List Char) : Bool := text.head?.any fun c => !isBlank c && !follows c

theorem skipBlanks_cons {c : Char} (visible : isBlank c = false) (rest : List Char) :
    skipBlanks (c :: rest) = c :: rest :=
  List.dropWhile_cons_of_neg (by simp [visible])

theorem opens_cons {text : List Char} (visible : opens text = true) (rest : List Char) :
    skipBlanks (text ++ rest) = text ++ rest := by
  cases text with
  | nil => cases visible
  | cons c further =>
    simp only [opens, List.head?_cons, Option.any_some, Bool.and_eq_true, Bool.not_eq_true'] at visible
    exact skipBlanks_cons visible.1 (further ++ rest)

variable {A : Type} {item : Reader A}

abbrev commas (texts : List (List Char)) : List Char := [','].intercalate texts

theorem commas_cons (text next : List Char) (texts : List (List Char)) :
    commas (text :: next :: texts) = text ++ ',' :: commas (next :: texts) := by
  simp [commas, List.intercalate]

/-- A list's element. -/
structure Element (item : Reader A) (text : List Char) (value : A) : Prop where
  visible : opens text = true
  gives : Gives item text value

theorem readItems_gives {texts : List (List Char)} {values : List A} {close : Char}
    (closes : follows close = true) (noComma : close ≠ ',')
    (elements : List.Forall₂ (Element item) texts values) (given : values ≠ []) {fuel : Nat}
    (enough : texts.length ≤ fuel) (rest : List Char) :
    readItems item close fuel (commas texts ++ close :: rest) = some (values, rest) := by
  have visible : ∀ c, follows c = true → isBlank c = false := by
    intro c listed
    simp only [follows, Bool.or_eq_true, decide_eq_true_eq] at listed
    rcases listed with (rfl | rfl) | rfl <;> rfl
  induction elements generalizing fuel with
  | nil => exact absurd rfl given
  | @cons text value texts values element others ih =>
    obtain ⟨fuel, rfl⟩ : ∃ left, fuel = left + 1 := ⟨fuel - 1, by simp at enough; omega⟩
    rw [List.length_cons] at enough
    cases others with
    | nil =>
      have alone : commas [text] = text := List.intercalate_singleton
      rw [alone, readItems, opens_cons element.visible,
        element.gives (close :: rest) (by simpa using closes)]
      simp only [skipBlanks_cons (visible close closes), if_neg noComma, if_true]
    | @cons next second further values _ _ =>
      rw [commas_cons, List.append_assoc, List.cons_append, readItems, opens_cons element.visible,
        element.gives _ rfl]
      simp only [skipBlanks_cons (visible ',' rfl), if_true, ih (by simp) (Nat.le_of_succ_le_succ enough)]
      rfl

theorem readItems_refuses {texts : List (List Char)} {values : List A} {bad : List Char}
    {close : Char} (elements : List.Forall₂ (Element item) texts values)
    (visible : opens bad = true) (refused : Refuses item bad) (fuel : Nat) (rest : List Char) :
    readItems item close fuel (commas (texts ++ [bad]) ++ rest) = none := by
  induction elements generalizing fuel with
  | nil =>
    have alone : commas ([] ++ [bad]) = bad := List.intercalate_singleton
    cases fuel with
    | zero => rfl
    | succ fuel => rw [alone, readItems, opens_cons visible, refused rest]
  | @cons text value texts values element others ih =>
    obtain ⟨next, further, same⟩ : ∃ next further, texts ++ [bad] = next :: further := by
      cases texts with
      | nil => exact ⟨bad, [], rfl⟩
      | cons next further => exact ⟨next, further ++ [bad], rfl⟩
    cases fuel with
    | zero => rfl
    | succ fuel =>
      rw [List.cons_append, same, commas_cons, List.append_assoc, List.cons_append, readItems,
        opens_cons element.visible, element.gives _ rfl, ← same]
      simp only [skipBlanks_cons (show isBlank ',' = false from rfl), if_true, ih fuel]
      rfl

theorem opens_apart {c : Char} {text : List Char} (visible : opens (c :: text) = true) {close : Char}
    (closes : follows close = true) : c ≠ close := by
  rintro rfl
  simp [opens, closes] at visible

theorem opens_append {text : List Char} (visible : opens text = true) (rest : List Char) :
    opens (text ++ rest) = true := by
  cases text with
  | nil => cases visible
  | cons c further => exact visible

theorem readList_items {text : List Char} (visible : opens text = true) {close : Char}
    (closes : follows close = true) :
    readList item close text = readItems item close text.length text := by
  have shown := opens_cons visible []
  rw [List.append_nil] at shown
  cases text with
  | nil => cases visible
  | cons c further => simp only [readList, shown, if_neg (opens_apart visible closes)]

theorem opens_commas {texts : List (List Char)} {values : List A}
    (elements : List.Forall₂ (Element item) texts values) (given : values ≠ []) :
    opens (commas texts) = true ∧ texts.length ≤ (commas texts).length := by
  induction elements with
  | nil => exact absurd rfl given
  | @cons text value texts values element others ih =>
    have first : 0 < text.length := by
      rw [List.length_pos_iff]
      rintro rfl
      exact nomatch element.visible
    cases others with
    | nil =>
      have alone : commas [text] = text := List.intercalate_singleton
      rw [alone]
      exact ⟨element.visible, first⟩
    | @cons next second further values _ _ =>
      obtain ⟨-, longer⟩ := ih (by simp)
      rw [commas_cons]
      refine ⟨opens_append element.visible _, ?_⟩
      simp only [List.length_append, List.length_cons] at longer ⊢
      omega

theorem readList_gives {texts : List (List Char)} {values : List A} {close : Char}
    (closes : follows close = true) (noComma : close ≠ ',')
    (elements : List.Forall₂ (Element item) texts values) (given : values ≠ []) (rest : List Char) :
    readList item close (commas texts ++ close :: rest) = some (values, rest) := by
  obtain ⟨visible, enough⟩ := opens_commas elements given
  rw [readList_items (opens_append visible _) closes]
  refine readItems_gives closes noComma elements given ?_ rest
  rw [List.length_append]
  omega

theorem readList_refuses {texts : List (List Char)} {values : List A} {bad : List Char}
    {close : Char} (closes : follows close = true)
    (elements : List.Forall₂ (Element item) texts values)
    (visible : opens bad = true) (refused : Refuses item bad) (rest : List Char) :
    readList item close (commas (texts ++ [bad]) ++ rest) = none := by
  have begins : opens (commas (texts ++ [bad]) ++ rest) = true := by
    cases elements with
    | nil =>
      have alone : commas ([] ++ [bad]) = bad := List.intercalate_singleton
      rw [alone]
      exact opens_append visible rest
    | @cons text value texts values element _ =>
      rw [commas, List.cons_append, List.intercalate_cons_of_ne_nil (by simp), List.append_assoc,
        List.append_assoc]
      exact opens_append element.visible _
  rw [readList_items begins closes]
  exact readItems_refuses elements visible refused _ rest

/-! ## Keys and values -/

theorem readKey_append {key rest : List Char} (bare : key.all isBare = true) (given : key ≠ [])
    (apart : rest.head?.all (fun c => !isBare c) = true) :
    readKey (key ++ rest) = some (key, rest) := by
  have taken : (key ++ rest).takeWhile isBare = key := by
    rw [List.takeWhile_append_of_pos fun c member => List.all_eq_true.mp bare c member]
    cases rest with
    | nil => simp
    | cons c further => simp_all
  have left : (key ++ rest).dropWhile isBare = rest := by
    rw [List.dropWhile_append_of_pos fun c member => List.all_eq_true.mp bare c member]
    cases rest with
    | nil => rfl
    | cons c further => simp_all
  rw [readKey, taken, left]
  simp [given]

theorem opens_key {key : List Char} (bare : key.all isBare = true) (given : key ≠ [])
    (rest : List Char) : opens (key ++ rest) = true := by
  cases key with
  | nil => exact absurd rfl given
  | cons c further =>
    rw [List.all_cons, Bool.and_eq_true] at bare
    have apart : ∀ other : Char, isBare other = false → c ≠ other := by
      rintro other refused rfl
      exact nomatch refused.symm.trans bare.1
    simp [opens, isBlank, follows, apart ' ' rfl, apart '\t' rfl, apart ',' rfl, apart ']' rfl,
      apart '\x7d' rfl]

section
variable {value : Value} {text key : List Char} {reader : Reader Value}

theorem Element.entry (bare : key.all isBare = true) (given : key ≠ [])
    (element : Element reader text value) :
    Element (readEntry reader) (key ++ '=' :: text) (key, value) := by
  refine ⟨opens_key bare given _, fun rest behind => ?_⟩
  rw [List.append_assoc, readEntry, readKey_append bare given rfl]
  simp only [List.cons_append, skipBlanks_cons (show isBlank '=' = false from rfl), if_true,
    opens_cons element.visible, element.gives rest behind]
  rfl

theorem refuses_entry (bare : key.all isBare = true) (given : key ≠ [])
    (visible : opens text = true) (refused : Refuses reader text) :
    Refuses (readEntry reader) (key ++ '=' :: text) := by
  intro rest
  rw [List.append_assoc, readEntry, readKey_append bare given rfl]
  simp only [List.cons_append, skipBlanks_cons (show isBlank '=' = false from rfl), if_true,
    opens_cons visible, refused rest]
  rfl

end

section
variable {fuel : Nat}

theorem Element.string (writer : Json.Writer) {text : List Char} (kept : delete ∉ text) :
    Element (readValue (fuel + 1)) (writer.write text) (.string text) := by
  refine ⟨rfl, fun rest behind => ?_⟩
  have apart : rest.head? ≠ some '"' := by
    intro same
    rw [same] at behind
    cases behind
  rw [Json.Writer.write, List.cons_append, List.append_assoc, readValue, if_pos rfl,
    List.singleton_append, readBasic_write, if_neg kept]
  exact if_neg fun both => apart both.2

theorem refuses_string (writer : Json.Writer) {text : List Char} (held : delete ∈ text) :
    Refuses (readValue (fuel + 1)) (writer.write text) := by
  intro rest
  rw [Json.Writer.write, List.cons_append, List.append_assoc, readValue, if_pos rfl,
    List.singleton_append, readBasic_write, if_pos held]

theorem Element.number {digits : List Char} (decimals : isDecimal digits = true) :
    Element (readValue (fuel + 1)) digits (.integer (decimal digits)) := by
  have all : ∀ c ∈ digits, c.isDigit = true := by
    simp only [isDecimal, Bool.and_eq_true] at decimals
    exact List.all_eq_true.mp decimals.1
  have bare : ∀ c, c.isDigit = true → isBare c = true := fun c digit => by
    simp [isBare, Char.isAlphanum, digit]
  have given : digits ≠ [] := by
    rintro rfl
    cases decimals
  have visible : opens digits = true := by
    have key := opens_key (List.all_eq_true.mpr fun c member => bare c (all c member)) given []
    rwa [List.append_nil] at key
  refine ⟨visible, fun rest behind => ?_⟩
  have number : ∀ c ∈ digits, inNumber c = true := fun c member => by
    simp [inNumber, bare c (all c member)]
  -- What may follow a value is no part of a number.
  have ended : rest.takeWhile inNumber = [] ∧ rest.dropWhile inNumber = rest := by
    cases rest with
    | nil => exact ⟨rfl, rfl⟩
    | cons c further =>
      have apart : inNumber c = false := by
        simp only [List.head?_cons, Option.all_some, follows, Bool.or_eq_true,
          decide_eq_true_eq] at behind
        rcases behind with (rfl | rfl) | rfl <;> rfl
      simp [apart]
  have read : readNumber (digits ++ rest) = some (.integer (decimal digits), rest) := by
    rw [readNumber, List.takeWhile_append_of_pos number, List.dropWhile_append_of_pos number,
      ended.1, ended.2, List.append_nil, if_pos decimals]
  cases digits with
  | nil => exact absurd rfl given
  | cons c further =>
    have digit := all c (by simp)
    have apart : ∀ other : Char, other.isDigit = false → c ≠ other := by
      rintro other refused rfl
      exact nomatch refused.symm.trans digit
    rw [List.cons_append, readValue, if_neg (apart _ rfl), if_neg (apart _ rfl),
      if_neg (apart _ rfl)]
    exact read

theorem Element.array {texts : List (List Char)} {values : List Value}
    (elements : List.Forall₂ (Element (readValue fuel)) texts values) (given : values ≠ []) :
    Element (readValue (fuel + 1)) ('[' :: (commas texts ++ [']'])) (.array values) := by
  refine ⟨rfl, fun rest _ => ?_⟩
  rw [List.cons_append, List.append_assoc, readValue, if_neg (by decide), if_pos rfl]
  rw [List.singleton_append, readList_gives rfl (by decide) elements given]
  rfl

theorem refuses_array {texts : List (List Char)} {values : List Value} {bad : List Char}
    (elements : List.Forall₂ (Element (readValue fuel)) texts values)
    (visible : opens bad = true) (refused : Refuses (readValue fuel) bad) (further : List Char) :
    Refuses (readValue (fuel + 1)) ('[' :: (commas (texts ++ [bad]) ++ further)) := by
  intro rest
  rw [List.cons_append, List.append_assoc, readValue, if_neg (by decide), if_pos rfl,
    readList_refuses rfl elements visible refused]
  rfl

theorem Element.table {texts : List (List Char)} {entries : List (List Char × Value)}
    (elements : List.Forall₂ (Element (readEntry (readValue fuel))) texts entries)
    (given : entries ≠ []) (distinct : (entries.map Prod.fst).Nodup) :
    Element (readValue (fuel + 1)) ('\x7b' :: (commas texts ++ ['\x7d'])) (.table entries) := by
  refine ⟨rfl, fun rest _ => ?_⟩
  rw [List.cons_append, List.append_assoc, readValue, if_neg (by decide), if_neg (by decide),
    if_pos rfl, List.singleton_append, readList_gives rfl (by decide) elements given]
  exact if_pos distinct

theorem refuses_table {texts : List (List Char)} {entries : List (List Char × Value)}
    {bad : List Char} (elements : List.Forall₂ (Element (readEntry (readValue fuel))) texts entries)
    (visible : opens bad = true) (refused : Refuses (readEntry (readValue fuel)) bad)
    (further : List Char) :
    Refuses (readValue (fuel + 1)) ('\x7b' :: (commas (texts ++ [bad]) ++ further)) := by
  intro rest
  rw [List.cons_append, List.append_assoc, readValue, if_neg (by decide), if_neg (by decide),
    if_pos rfl, readList_refuses rfl elements visible refused]

end

abbrev dotted (path : List (List Char)) : List Char := ['.'].intercalate path

theorem dotted_cons (key next : List Char) (path : List (List Char)) :
    dotted (key :: next :: path) = key ++ '.' :: dotted (next :: path) := by
  simp [dotted, List.intercalate]

theorem readPath_dotted {path : List (List Char)} (given : path ≠ [])
    (bare : ∀ key ∈ path, key.all isBare = true ∧ key ≠ []) {fuel : Nat}
    (enough : path.length ≤ fuel) (rest : List Char) :
    readPath fuel (dotted path ++ '=' :: rest) = some (path, '=' :: rest) := by
  induction path generalizing fuel with
  | nil => exact absurd rfl given
  | cons key path ih =>
    obtain ⟨fuel, rfl⟩ : ∃ left, fuel = left + 1 := ⟨fuel - 1, by simp at enough; omega⟩
    rw [List.length_cons] at enough
    have first := bare key (by simp)
    cases path with
    | nil =>
      have alone : dotted [key] = key := List.intercalate_singleton
      rw [alone, readPath, readKey_append first.1 first.2 rfl]
      rfl
    | cons next further =>
      rw [dotted_cons, List.append_assoc, List.cons_append, readPath,
        readKey_append first.1 first.2 rfl]
      simp only [ih (by simp) (fun other member => bare other (by simp [member]))
        (Nat.le_of_succ_le_succ enough)]
      rfl

section
variable {path : List (List Char)} {text : List Char}

theorem dotted_length (bare : ∀ key ∈ path, key.all isBare = true ∧ key ≠ []) :
    path.length ≤ (dotted path).length := by
  induction path with
  | nil => exact Nat.zero_le _
  | cons key path ih =>
    have first := List.length_pos_iff.mpr (bare key (by simp)).2
    have later := ih fun other member => bare other (by simp [member])
    cases path with
    | nil =>
      have alone : dotted [key] = key := List.intercalate_singleton
      rw [alone]
      exact first
    | cons next further =>
      rw [dotted_cons]
      simp only [List.length_append, List.length_cons] at later ⊢
      omega

theorem readBinding_eq (given : path ≠ [])
    (bare : ∀ key ∈ path, key.all isBare = true ∧ key ≠ []) (visible : opens text = true) :
    readBinding (dotted path ++ '=' :: text) =
      match readValue (dotted path ++ '=' :: text).length text with
      | none => none
      | some (value, rest) => if (skipBlanks rest).isEmpty then some (path, value) else none := by
  have begins : opens (dotted path ++ '=' :: text) = true := by
    cases path with
    | nil => exact absurd rfl given
    | cons key further =>
      have first := bare key (by simp)
      cases further with
      | nil =>
        have alone : dotted [key] = key := List.intercalate_singleton
        rw [alone]
        exact opens_key first.1 first.2 _
      | cons next others =>
        rw [dotted_cons, List.append_assoc]
        exact opens_key first.1 first.2 _
  have enough : path.length ≤ (dotted path ++ '=' :: text).length := by
    have short := dotted_length bare
    rw [List.length_append]
    omega
  have shown := opens_cons begins []
  have value := opens_cons visible []
  rw [List.append_nil] at shown value
  rw [readBinding, shown, readPath_dotted given bare enough]
  simp only [skipBlanks_cons (show isBlank '=' = false from rfl), if_true, value]

theorem readBinding_gives (given : path ≠ [])
    (bare : ∀ key ∈ path, key.all isBare = true ∧ key ≠ []) {value : Value}
    (element : Element (readValue (dotted path ++ '=' :: text).length) text value) :
    readBinding (dotted path ++ '=' :: text) = some (path, value) := by
  have read := element.gives [] rfl
  rw [List.append_nil] at read
  rw [readBinding_eq given bare element.visible, read]
  rfl

theorem readBinding_refuses (given : path ≠ [])
    (bare : ∀ key ∈ path, key.all isBare = true ∧ key ≠ []) (visible : opens text = true)
    (refused : Refuses (readValue (dotted path ++ '=' :: text).length) text) :
    readBinding (dotted path ++ '=' :: text) = none := by
  have read := refused []
  rw [List.append_nil] at read
  rw [readBinding_eq given bare visible, read]

end

end Mult.Foundation.Toml
