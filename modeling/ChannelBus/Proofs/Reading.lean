import ChannelBus.Json.Record
import ChannelBus.Json.Value
import ChannelBus.Proofs.Grammar

/-!
# Reading what was written

What the readers of wanted values make of a text, a number or a truth value, in whatever way it is
written, and that the writers of documents write them in one of these ways: each character of a text
stands for itself or is escaped, and the digits of a number are read back to the number.

A record is read from the members of an object. `IsMembers` lists members one after the other with
what each of them says, and `Format.Says` is what a member says to the reader of a record: one of
its fields, or nothing at all under a key that nobody knows.
-/

namespace ChannelBus.Json

/-! ## Texts -/

/-- Four hexadecimal digits of a code unit. -/
inductive IsCode : Char → Char → Char → Char → Nat → Prop where
  /-- The first digit is the highest. -/
  | digits {a b c d : Char} {first second third fourth : Nat} (isFirst : hexDigit? a = some first)
    (isSecond : hexDigit? b = some second) (isThird : hexDigit? c = some third)
    (isFourth : hexDigit? d = some fourth) :
    IsCode a b c d ([first, second, third, fourth].foldl (fun unit digit => unit * 16 + digit) 0)

/-- The characters between quotes that spell a text. -/
inductive Spells : List Char → List Char → Prop where
  /-- Nothing more. -/
  | done : Spells [] []
  /-- A character that stands for itself. -/
  | plain {c : Char} {written text : List Char} (unquoted : c ≠ '"') (unescaped : c ≠ '\\')
    (shown : ¬ c < ' ') (more : Spells written text) : Spells (c :: written) (c :: text)
  /-- A short escape. -/
  | short {c character : Char} {written text : List Char}
    (escapes : shortEscape? c = some character) (more : Spells written text) :
    Spells ('\\' :: c :: written) (character :: text)
  /-- A code unit that is a character. -/
  | code {a b c d : Char} {unit : Nat} {written text : List Char} (isCode : IsCode a b c d unit)
    (unpaired : isHighSurrogate unit = false ∧ isLowSurrogate unit = false)
    (more : Spells written text) :
    Spells ('\\' :: 'u' :: a :: b :: c :: d :: written) (Char.ofNat unit :: text)
  /-- Two code units that are a character together. -/
  | pair {a b c d e f g h : Char} {high low : Nat} {written text : List Char}
    (isHigh : IsCode a b c d high) (isLow : IsCode e f g h low)
    (paired : isHighSurrogate high = true ∧ isLowSurrogate low = true)
    (more : Spells written text) :
    Spells ('\\' :: 'u' :: a :: b :: c :: d :: '\\' :: 'u' :: e :: f :: g :: h :: written)
      (pairedCharacter high low :: text)

section Texts

variable {written text rest earlier : List Char}

/-- A text without special characters can be written as it is. -/
theorem spells_self (plain : ∀ c ∈ text, c ≠ '"' ∧ c ≠ '\\' ∧ ¬ c < ' ') : Spells text text := by
  induction text with
  | nil => exact .done
  | cons c text ih =>
    obtain ⟨unquoted, unescaped, shown⟩ := plain c List.mem_cons_self
    exact .plain unquoted unescaped shown
      (ih fun other listed => plain other (List.mem_cons_of_mem _ listed))

/-- The digits of a code unit are read one after the other. -/
theorem IsCode.read {a b c d : Char} {unit : Nat} (isCode : IsCode a b c d unit)
    {high : Option Nat} {next : TextPlace} {character : Option Char}
    (ends : endOfCode? unit high = some (next, character)) :
    readTextFrom (.code 4 0 high) earlier (a :: b :: c :: d :: rest) =
      readTextFrom next (character.toList ++ earlier) rest := by
  cases isCode with
  | digits isFirst isSecond isThird isFourth =>
    simp only [List.foldl_cons, List.foldl_nil, Nat.zero_mul, Nat.zero_add] at ends
    simp [readTextFrom, isFirst, isSecond, isThird, isFourth, ends]

/-- No surrogate is both high and low. -/
theorem isLowSurrogate_of_high {unit : Nat} (high : isHighSurrogate unit = true) :
    isLowSurrogate unit = false := by
  simp only [isHighSurrogate, isLowSurrogate, Bool.and_eq_true, decide_eq_true_eq,
    Bool.and_eq_false_iff, decide_eq_false_iff_not] at *
  omega

/-- A spelled text is read up to its closing quote. -/
theorem Spells.read (spells : Spells written text) (earlier : List Char) :
    readTextFrom .plain earlier (written ++ '"' :: rest) =
      .ok (String.ofList (earlier.reverse ++ text), rest) := by
  have escape (earlier after : List Char) :
      readTextFrom .plain earlier ('\\' :: 'u' :: after) =
        readTextFrom (.code 4 0 none) earlier after := rfl
  induction spells generalizing earlier with
  | done => simp [readTextFrom]
  | plain unquoted unescaped shown _ ih =>
    rw [List.cons_append, readTextFrom]
    simp [unquoted, unescaped, shown, ih]
  | @short c character written text escapes _ ih =>
    have notCode : c ≠ 'u' := by
      rintro rfl
      cases escapes
    rw [List.cons_append, List.cons_append, readTextFrom]
    simp [readTextFrom, notCode, escapes, ih]
  | @code a b c d unit written text isCode unpaired _ ih =>
    have ends : endOfCode? unit none = some (.plain, some (Char.ofNat unit)) := by
      simp [endOfCode?, unpaired]
    simp only [List.cons_append]
    rw [escape, isCode.read ends, ih]
    simp
  | @pair a b c d e f g h high low written text isHigh isLow paired _ ih =>
    have first : endOfCode? high none = some (.pairBackslash high, none) := by
      simp [endOfCode?, paired.1, isLowSurrogate_of_high paired.1]
    have second : endOfCode? low (some high) = some (.plain, some (pairedCharacter high low)) := by
      simp [endOfCode?, paired.2]
    have pair (after : List Char) :
        readTextFrom (.pairBackslash high) earlier ('\\' :: 'u' :: after) =
          readTextFrom (.code 4 0 (some high)) earlier after := rfl
    simp only [List.cons_append]
    rw [escape, isHigh.read first, Option.toList_none, List.nil_append, pair, isLow.read second, ih]
    simp

/-- Spelled texts in a row. -/
theorem Spells.append {others later : List Char} (spells : Spells written text)
    (more : Spells others later) : Spells (written ++ others) (text ++ later) := by
  induction spells with
  | done => exact more
  | plain unquoted unescaped shown _ ih => exact .plain unquoted unescaped shown ih
  | short escapes _ ih => exact .short escapes ih
  | code isCode unpaired _ ih => exact .code isCode unpaired ih
  | pair isHigh isLow paired _ ih => exact .pair isHigh isLow paired ih

/-- A control character is written by its code unit, of which two digits are zero. -/
theorem digits_of_control {code : Nat} (control : code < 32) :
    let digits := Nat.toDigits 16 code
    ∃ third fourth, List.replicate (4 - digits.length) '0' ++ digits = ['0', '0', third, fourth] ∧
      hexDigit? third = some (code / 16) ∧ hexDigit? fourth = some (code % 16) := by
  have all : ∀ code < 32, List.replicate (4 - (Nat.toDigits 16 code).length) '0' ++
      Nat.toDigits 16 code = ['0', '0', (code / 16).digitChar, (code % 16).digitChar] ∧
        hexDigit? (code / 16).digitChar = some (code / 16) ∧
        hexDigit? (code % 16).digitChar = some (code % 16) := by decide
  exact ⟨_, _, all code control⟩

/-- A control character is spelled by its code unit. -/
theorem spells_control {c : Char} (control : c < ' ') :
    Spells ('\\' :: 'u' :: (List.replicate (4 - (Text.hexadecimal c.toNat).length) '0' ++
      (Text.hexadecimal c.toNat).toList)) [c] := by
  have small : c.toNat < 32 := by simpa [Char.lt_def, UInt32.lt_iff_toNat_lt] using control
  obtain ⟨third, fourth, written, isThird, isFourth⟩ := digits_of_control small
  have zero : hexDigit? '0' = some 0 := rfl
  have isCode := IsCode.digits zero zero isThird isFourth
  have unit : [0, 0, c.toNat / 16, c.toNat % 16].foldl (fun unit digit => unit * 16 + digit) 0 =
      c.toNat := by
    simp only [List.foldl_cons, List.foldl_nil]
    omega
  rw [unit] at isCode
  have unpaired : isHighSurrogate c.toNat = false ∧ isLowSurrogate c.toNat = false := by
    simp only [isHighSurrogate, isLowSurrogate, Bool.and_eq_false_iff, decide_eq_false_iff_not]
    omega
  have spelled := Spells.code isCode unpaired .done
  rw [Char.ofNat_toNat] at spelled
  simpa [Text.hexadecimal, written] using spelled

/-- A character is written as itself or escaped. -/
theorem spells_writtenCharacter (c : Char) : Spells (writtenCharacter c).toList [c] := by
  unfold writtenCharacter
  split
  case h_8 quote backslash _ _ _ _ _ =>
    split
    case isTrue control => simpa using spells_control control
    case isFalse shown =>
      simpa using Spells.plain (fun same => quote same) (fun same => backslash same) shown .done
  all_goals exact .short rfl .done

/-- The characters between the quotes of a written text spell it. -/
theorem spells_writtenText (text : String) :
    ∃ body, (writtenText text).toList = '"' :: (body ++ ['"']) ∧ Spells body text.toList := by
  refine ⟨text.toList.flatMap fun c => (writtenCharacter c).toList, ?_, ?_⟩
  · simp [writtenText, String.toList_join, List.flatMap_map]
  · induction text.toList with
    | nil => exact .done
    | cons c rest ih => exact (spells_writtenCharacter c).append ih

end Texts

/-! ## Space, numbers and truth values -/

section Scalars

variable {space rest : List Char}

/-- Space before a token is dropped. -/
theorem skipSpace_blank {c : Char} (blank : IsBlank space) (shown : isSpace c = false) :
    skipSpace (space ++ c :: rest) = c :: rest := by
  rw [skipSpace, List.dropWhile_append_of_pos blank, List.dropWhile_cons_of_neg (by simp [shown])]

/-- A token is read after space. -/
theorem readToken_blank {c : Char} (blank : IsBlank space) (shown : isSpace c = false) :
    readToken c (space ++ c :: rest) = .ok ((), rest) := by
  simp [readToken, skipSpace_blank blank shown]

/-- The value of a decimal digit. -/
theorem decimalDigit?_of_isDigit {c : Char} (digit : c.isDigit = true) :
    decimalDigit? c = some (c.toNat - '0'.toNat) := by
  have listed := isDigit_cases digit
  simp only [List.mem_cons, List.not_mem_nil, or_false] at listed
  rcases listed with rfl | rfl | rfl | rfl | rfl | rfl | rfl | rfl | rfl | rfl <;> rfl

/-- No digit follows where a value can end. -/
theorem not_startsWithDigit (ends : Delimits rest) : startsWithDigit rest = false := by
  cases rest with
  | nil => rfl
  | cons c rest =>
    have listed := delimiter_cases ends
    simp only [List.mem_cons, List.not_mem_nil, or_false] at listed
    rcases listed with rfl | rfl | rfl | rfl | rfl | rfl | rfl <;> rfl

/-- More digits never make a number smaller. -/
theorem le_ofDigitChars (digits : List Char) (value : Nat) :
    value ≤ Nat.ofDigitChars 10 digits value := by
  rw [Nat.ofDigitChars_eq_ofDigitChars_zero]
  have positive : 1 ≤ 10 ^ digits.length := Nat.one_le_pow _ _ (by decide)
  calc value = 1 * value := (Nat.one_mul value).symm
    _ ≤ 10 ^ digits.length * value := Nat.mul_le_mul_right value positive
    _ ≤ _ := Nat.le_add_right _ _

/-- Digits are read to the number that they write, if it is below the limit. -/
theorem readDigitsBelow_eq {limit : Nat} {digits : List Char}
    (all : ∀ c ∈ digits, c.isDigit = true) {value : Nat}
    (below : Nat.ofDigitChars 10 digits value < limit) (ends : Delimits rest) (count : Nat) :
    readDigitsBelow limit value count (digits ++ rest) =
      (Nat.ofDigitChars 10 digits value, count + digits.length, rest) := by
  induction digits generalizing value count with
  | nil =>
    have stop := not_startsWithDigit ends
    cases rest with
    | nil => rfl
    | cons c rest =>
      have none : decimalDigit? c = none := by simpa [startsWithDigit] using stop
      simp [readDigitsBelow, none, Nat.ofDigitChars_nil]
  | cons c digits ih =>
    have value? := decimalDigit?_of_isDigit (all c List.mem_cons_self)
    rw [Nat.ofDigitChars_cons, Nat.mul_comm] at below
    have small := Nat.lt_of_le_of_lt (le_ofDigitChars digits _) below
    rw [List.cons_append, readDigitsBelow, value?]
    simp only [small, if_true]
    rw [ih (fun other later => all other (List.mem_cons_of_mem _ later)) below,
      Nat.ofDigitChars_cons, Nat.mul_comm 10 value, List.length_cons, Nat.add_assoc,
      Nat.add_comm 1]

/-- A number other than zero is not written with a leading zero. -/
theorem head_toDigits_ne {number : Nat} (positive : 0 < number) :
    ∃ first rest, Nat.toDigits 10 number = first :: rest ∧ first ≠ '0' := by
  induction number using Nat.strongRecOn with
  | _ number ih =>
    rw [Nat.toDigits_eq_if (by decide)]
    split
    case isTrue small =>
      have nonzero : ∀ digit < 10, 0 < digit → digit.digitChar ≠ '0' := by decide
      exact ⟨_, _, rfl, nonzero number small positive⟩
    case isFalse large =>
      obtain ⟨first, rest, digits, other⟩ :=
        ih (number / 10) (by omega) (by omega)
      exact ⟨first, _, by rw [digits, List.cons_append], other⟩

/-- What follows the digits of a number where it ends. -/
theorem readAfterWhole_eq (ends : Delimits rest) (value : Nat) :
    readAfterWhole false value rest = .ok (.natural value, rest) := by
  cases rest with
  | nil => rfl
  | cons c rest =>
    have listed := delimiter_cases ends
    simp only [List.mem_cons, List.not_mem_nil, or_false] at listed
    rcases listed with rfl | rfl | rfl | rfl | rfl | rfl | rfl <;> rfl

/-- A number that fits a word is read back from its digits. -/
theorem readMagnitude_toDigits {number : Nat} (fits : number < wordLimit) (ends : Delimits rest) :
    readMagnitude false (Nat.toDigits 10 number ++ rest) = .ok (.natural number, rest) := by
  rcases Nat.eq_zero_or_pos number with rfl | positive
  · rw [Nat.toDigits_zero, List.cons_append, List.nil_append, readMagnitude,
      not_startsWithDigit ends]
    exact readAfterWhole_eq ends 0
  · obtain ⟨first, more, digits, other⟩ := head_toDigits_ne positive
    have all : ∀ c ∈ Nat.toDigits 10 number, c.isDigit = true :=
      fun c inside => Nat.isDigit_of_mem_toDigits (by decide) (by decide) inside
    have below : Nat.ofDigitChars 10 (Nat.toDigits 10 number) 0 < wordLimit := by
      rwa [Nat.ofDigitChars_ten_toDigits]
    have read := readDigitsBelow_eq all below ends 0
    have starts : startsWithDigit (first :: (more ++ rest)) = true := by
      have digit : first.isDigit = true := all first (digits ▸ List.mem_cons_self)
      rw [startsWithDigit, decimalDigit?_of_isDigit digit]
      rfl
    rw [Nat.ofDigitChars_ten_toDigits, digits, List.cons_append] at read
    rw [digits, List.cons_append, readMagnitude]
    · simp only [starts, if_true, read, not_startsWithDigit ends, Bool.false_eq_true, if_false]
      exact readAfterWhole_eq ends number
    · rintro ⟨⟩
    · rintro input ⟨⟩
      exact other rfl

/-- A number that fits a word is read back from how it is written. -/
theorem readNatural_toString {number : Nat} (fits : number < wordLimit) (wanted : String)
    (blank : IsBlank space) (ends : Delimits rest) :
    readNatural wanted (space ++ ((toString number).toList ++ rest)) = .ok (number, rest) := by
  have digits : (toString number).toList = Nat.toDigits 10 number := by
    rw [Nat.toString_eq_ofList_toDigits, String.toList_ofList]
  have read := readMagnitude_toDigits fits ends
  rw [digits]
  cases written : Nat.toDigits 10 number with
  | nil => exact absurd written Nat.toDigits_ne_nil
  | cons first more =>
    have digit : first.isDigit = true :=
      Nat.isDigit_of_mem_toDigits (by decide) (by decide) (written ▸ List.mem_cons_self)
    have shown : isSpace first = false ∧ startsNumber first = true ∧ first ≠ '-' := by
      have listed := isDigit_cases digit
      simp only [List.mem_cons, List.not_mem_nil, or_false] at listed
      rcases listed with rfl | rfl | rfl | rfl | rfl | rfl | rfl | rfl | rfl | rfl <;> decide
    obtain ⟨notSpace, starts, unsigned⟩ := shown
    rw [written, List.cons_append] at read
    have number? : readNumber (first :: (more ++ rest)) = .ok (.natural number, rest) := by
      rw [readNumber, read]
      rintro input ⟨⟩
      exact unsigned rfl
    simp [readNatural, skipSpace_blank blank notSpace, starts, number?]

/-- A word is read letter by letter. -/
theorem readWord_append (word : List Char) : readWord word (word ++ rest) = .ok ((), rest) := by
  induction word with
  | nil => rfl
  | cons letter word ih => simp [readWord, ih]

/-- A truth value is read back from its word. -/
theorem readBoolean_boolText (value : Bool) (blank : IsBlank space) :
    readBoolean (space ++ ((Value.boolText value).toList ++ rest)) = .ok (value, rest) := by
  cases value with
  | true =>
    have word : (Value.boolText true).toList = 't' :: ['r', 'u', 'e'] := by decide
    rw [word, List.cons_append, readBoolean, skipSpace_blank blank (by decide)]
    simp only [readWord_append]
    rfl
  | false =>
    have word : (Value.boolText false).toList = 'f' :: ['a', 'l', 's', 'e'] := by decide
    rw [word, List.cons_append, readBoolean, skipSpace_blank blank (by decide)]
    simp only [readWord_append]
    rfl

end Scalars

/-! ## Members of an object -/

/-- The members of an object that is not empty, from front to back, with what each of them says. -/
inductive IsMembers {β : Type} (means : List Char → List Char → List β → Prop) :
    List Char → List β → Prop where
  /-- The last member. -/
  | last {before key gap between value after : List Char} {entries : List β}
    (early : IsBlank before) (opens : IsBlank gap) (closes : IsBlank between)
    (late : IsBlank after) (said : means key value entries) :
    IsMembers means
      (before ++ '"' :: (key ++ '"' :: (gap ++ ':' :: (between ++ (value ++ after))))) entries
  /-- A member with others behind it. -/
  | more {before key gap between value after others : List Char} {entries later : List β}
    (early : IsBlank before) (opens : IsBlank gap) (closes : IsBlank between)
    (late : IsBlank after) (said : means key value entries) (rest : IsMembers means others later) :
    IsMembers means
      (before ++ '"' :: (key ++ '"' :: (gap ++ ':' :: (between ++ (value ++
        (after ++ ',' :: others)))))) (entries ++ later)

/-- A document that is an object, with what its members say. -/
inductive IsDocument {β : Type} (means : List Char → List Char → List β → Prop) :
    List Char → List β → Prop where
  /-- An object without members. -/
  | empty {before space after : List Char} (early : IsBlank before) (inside : IsBlank space)
    (late : IsBlank after) :
    IsDocument means (before ++ '\x7b' :: (space ++ '\x7d' :: after)) []
  /-- An object with members. -/
  | object {before members after : List Char} {entries : List β} (early : IsBlank before)
    (inside : IsMembers means members entries) (late : IsBlank after) :
    IsDocument means (before ++ '\x7b' :: (members ++ '\x7d' :: after)) entries

section Members

variable {β γ : Type} {means : List Char → List Char → List β → Prop}
  {meansToo : List Char → List Char → List γ → Prop} {text : List Char} {entries : List β}

/-- What members say can be put in other terms. -/
theorem IsMembers.map {change : β → γ} (members : IsMembers means text entries)
    (translate : ∀ {key value entries}, means key value entries →
      meansToo key value (entries.map change)) :
    IsMembers meansToo text (entries.map change) := by
  induction members with
  | last early opens closes late said => exact .last early opens closes late (translate said)
  | more early opens closes late said _ ih =>
    rw [List.map_append]
    exact .more early opens closes late (translate said) ih

/-- What a document says can be put in other terms. -/
theorem IsDocument.map {change : β → γ} (document : IsDocument means text entries)
    (translate : ∀ {key value entries}, means key value entries →
      meansToo key value (entries.map change)) :
    IsDocument meansToo text (entries.map change) := by
  cases document with
  | empty early inside late => exact .empty early inside late
  | object early inside late => exact .object early (inside.map translate) late

end Members

/-! ## Records -/

/-- The values that a field takes, as they are written, with the change that each of them makes. -/
inductive Kind.Takes {ρ : Type} : Kind ρ → List Char → (ρ → ρ) → Prop where
  /-- A number that fits a word, in a field for numbers. -/
  | natural {wanted : String} {set : Nat → ρ → ρ} {number : Nat} (fits : number < wordLimit) :
    (Kind.natural wanted set).Takes (toString number).toList (set number)
  /-- A truth value, in a field for truth values. -/
  | boolean {set : Bool → ρ → ρ} (value : Bool) :
    (Kind.boolean set).Takes (Value.boolText value).toList (set value)

/-- The value of a field is read to the change that it makes. -/
theorem Kind.Takes.read {ρ : Type} {kind : Kind ρ} {value space rest : List Char} {change : ρ → ρ}
    (takes : kind.Takes value change) (blank : IsBlank space) (ends : Delimits rest) :
    kind.read (space ++ (value ++ rest)) = .ok (change, rest) := by
  cases takes with
  | natural fits =>
    simp only [Kind.read, readNatural_toString fits _ blank ends]
    rfl
  | boolean value =>
    simp only [Kind.read, readBoolean_boolText value blank]
    rfl

/-- What a member says to the reader of a record. -/
inductive Format.Says {ρ : Type} (format : Format ρ) :
    List Char → List Char → List (String × (ρ → ρ)) → Prop where
  /-- A field of the record. -/
  | field {key value : List Char} {name : String} {field : Json.Field ρ} {change : ρ → ρ}
    (spells : Spells key name.toList) (known : format.field? name = some field)
    (takes : field.kind.Takes value change) : format.Says key value [(name, change)]
  /-- A member that belongs to nobody. -/
  | other {key value : List Char} {name : String} (spells : Spells key name.toList)
    (unknown : format.field? name = none) (isValue : IsWritten .value value) :
    format.Says key value []

/-- A record after several changes. -/
def changed {ρ : Type} (record : ρ) (entries : List (String × (ρ → ρ))) : ρ :=
  entries.foldl (fun record entry => entry.2 record) record

section Records

variable {ρ : Type} {format : Format ρ} {record : ρ} {given : List String}
  {entries : List (String × (ρ → ρ))} {key value gap between space rest text : List Char}

/-- Changes in a row. -/
theorem changed_append (record : ρ) (entries later : List (String × (ρ → ρ))) :
    changed record (entries ++ later) = changed (changed record entries) later :=
  List.foldl_append

/-- What a member says is read into the record. -/
theorem Format.Says.readMember (means : format.Says key value entries)
    (new : ∀ entry ∈ entries, entry.1 ∉ given) (opens : IsBlank gap) (closes : IsBlank between)
    (ends : Delimits rest) (record : ρ) :
    ∃ name : String, Spells key name.toList ∧
      format.readMember name given record (gap ++ ':' :: (between ++ (value ++ rest))) =
        .ok ((entries.map (·.1) ++ given, changed record entries), rest) := by
  have colon (after : List Char) : readToken ':' (gap ++ ':' :: after) = .ok ((), after) :=
    readToken_blank opens (by decide)
  cases means with
  | field spells known takes =>
    have unseen := new _ List.mem_cons_self
    refine ⟨_, spells, ?_⟩
    simp [Format.readMember, known, unseen, colon, takes.read closes ends,
      Reading.mapValue, Except.map, changed]
  | other spells unknown isValue =>
    refine ⟨_, spells, ?_⟩
    simp [Format.readMember, unknown, colon, isValue.skipValue closes ends, Except.map, changed]

/-- No field is missing if all that must be given are. -/
theorem Format.missing?_eq_none
    (all : format.complete = true → ∀ field ∈ format.fields, field.name ∈ given) :
    format.missing? given = none := by
  rw [Format.missing?]
  split
  case isTrue complete =>
    refine List.find?_eq_none.mpr fun name listed => ?_
    obtain ⟨field, known, rfl⟩ := List.mem_map.mp listed
    simp [all complete field known]
  case isFalse => rfl

/-- The first member starts with the quote of its key. -/
theorem readMemberStart_first (blank : IsBlank space) (rest : List Char) :
    Format.readMemberStart true (space ++ '"' :: rest) = .ok (true, rest) := by
  simp [Format.readMemberStart, skipSpace_blank blank (c := '"') rfl]

/-- Later members start with a comma. -/
theorem readMemberStart_later {before : List Char} (late : IsBlank space) (early : IsBlank before)
    (rest : List Char) :
    Format.readMemberStart false (space ++ ',' :: (before ++ '"' :: rest)) = .ok (true, rest) := by
  simp [Format.readMemberStart, skipSpace_blank late (c := ',') rfl,
    readToken_blank early (c := '"') rfl, Reading.mapValue, Except.map]

/-- After the last member the object ends. -/
theorem readMembers_end {fuel : Nat} (blank : IsBlank space) (first : Bool)
    (all : format.complete = true → ∀ field ∈ format.fields, field.name ∈ given) :
    format.readMembers (fuel + 1) first given record (space ++ '\x7d' :: rest) =
      .ok (record, rest) := by
  simp [Format.readMembers, Format.readMemberStart, skipSpace_blank blank (c := '\x7d') rfl,
    Format.missing?_eq_none all]

/-- One member is read. -/
theorem Format.Says.readMembers {first : Bool} {lead : List Char}
    (means : format.Says key value entries) (new : ∀ entry ∈ entries, entry.1 ∉ given)
    (start : ∀ rest, Format.readMemberStart first (lead ++ '"' :: rest) = .ok (true, rest))
    (opens : IsBlank gap) (closes : IsBlank between) (ends : Delimits rest) (fuel : Nat)
    (record : ρ) :
    format.readMembers (fuel + 1) first given record
        (lead ++ '"' :: (key ++ '"' :: (gap ++ ':' :: (between ++ (value ++ rest))))) =
      format.readMembers fuel false (entries.map (·.1) ++ given) (changed record entries) rest := by
  obtain ⟨name, spells, read⟩ := means.readMember new opens closes ends record
  have key? : readText (key ++ '"' :: (gap ++ ':' :: (between ++ (value ++ rest)))) =
      .ok (name, gap ++ ':' :: (between ++ (value ++ rest))) := by
    rw [readText, spells.read]
    simp
  rw [Format.readMembers, start]
  simp only [key?, read]

/-- The members of an object are read into the record, each in its turn. -/
theorem IsMembers.read (members : IsMembers format.Says text entries) {fuel : Nat} {first : Bool}
    {lead : List Char} (enough : text.length < fuel)
    (start : ∀ before rest, IsBlank before →
      Format.readMemberStart first (lead ++ (before ++ '"' :: rest)) = .ok (true, rest))
    (once : (entries.map (·.1)).Nodup) (new : ∀ entry ∈ entries, entry.1 ∉ given)
    (all : format.complete = true → ∀ field ∈ format.fields,
      field.name ∈ entries.map (·.1) ++ given) :
    format.readMembers fuel first given record (lead ++ (text ++ '\x7d' :: rest)) =
      .ok (changed record entries, rest) := by
  induction members generalizing fuel first lead given record with
  | @last before key gap between value after entries early opens closes late said =>
    obtain ⟨fuel, rfl⟩ : ∃ left, fuel = left + 2 := ⟨fuel - 2, by simp at enough; omega⟩
    have ends : Delimits (after ++ '\x7d' :: rest) := late.delimits (.inr (.inr (.inr rfl)))
    have opening (rest : List Char) := start before rest early
    simp only [← List.append_assoc lead] at opening
    have read := said.readMembers new opening opens closes ends (fuel + 1) record
    simp only [List.append_assoc, List.cons_append] at read ⊢
    rw [read, readMembers_end late false fun complete field known =>
      all complete field known]
  | @more before key gap between value after others entries later early opens closes late said _
      ih =>
    obtain ⟨fuel, rfl⟩ : ∃ left, fuel = left + 1 := ⟨fuel - 1, by omega⟩
    have ends : Delimits (after ++ ',' :: (others ++ '\x7d' :: rest)) :=
      late.delimits (.inr (.inl rfl))
    have opening (rest : List Char) := start before rest early
    simp only [← List.append_assoc lead] at opening
    rw [List.map_append, List.nodup_append] at once
    obtain ⟨_, onceLater, apart⟩ := once
    have newLater : ∀ entry ∈ later, entry.1 ∉ entries.map (·.1) ++ given := by
      intro entry listed known
      rcases List.mem_append.mp known with early | before
      · exact apart _ early _ (List.mem_map_of_mem listed) rfl
      · exact new entry (List.mem_append_right _ listed) before
    have read := said.readMembers (fun entry listed => new entry (List.mem_append_left _ listed))
      opening opens closes ends fuel record
    have left : others.length < fuel := by
      simp only [List.length_append, List.length_cons] at enough
      omega
    have opener (before rest : List Char) (early : IsBlank before) :
        Format.readMemberStart false (after ++ [','] ++ (before ++ '"' :: rest)) =
          .ok (true, rest) := by
      simpa using readMemberStart_later late early rest
    have listed (complete : format.complete = true) (field : Json.Field ρ)
        (known : field ∈ format.fields) :
        field.name ∈ later.map (·.1) ++ (entries.map (·.1) ++ given) := by
      have given := all complete field known
      simp only [List.map_append, List.mem_append] at given ⊢
      rcases given with (early | late) | before
      · exact .inr (.inl early)
      · exact .inl late
      · exact .inr (.inr before)
    have go : format.readMembers fuel false (entries.map (·.1) ++ given) (changed record entries)
        (after ++ [','] ++ (others ++ '\x7d' :: rest)) =
          .ok (changed (changed record entries) later, rest) :=
      ih left opener onceLater newLater listed
    simp only [List.append_assoc, List.cons_append, List.nil_append] at read go ⊢
    rw [read, go, changed_append]

/-- A record is read from a document that is an object: every field that is given replaces the
value that it has in a record of which nothing is given. -/
theorem IsDocument.readAll {document : String}
    (written : IsDocument format.Says document.toList entries) (once : (entries.map (·.1)).Nodup)
    (all : format.complete = true → ∀ field ∈ format.fields, field.name ∈ entries.map (·.1)) :
    Json.readAll format.read document = .ok (changed format.blank entries) := by
  have whole {before inside after : List Char} (early : IsBlank before) (late : IsBlank after)
      (read : format.readMembers ((inside ++ '\x7d' :: after).length + 1) true [] format.blank
        (inside ++ '\x7d' :: after) = .ok (changed format.blank entries, after))
      (same : document.toList = before ++ '\x7b' :: (inside ++ '\x7d' :: after)) :
      Json.readAll format.read document = .ok (changed format.blank entries) := by
    have object : format.read document.toList = .ok (changed format.blank entries, after) := by
      rw [same, Format.read, skipSpace_blank early (by decide)]
      exact read
    have nothing : skipSpace after = [] := by
      have dropped : skipSpace (after ++ []) = skipSpace [] := List.dropWhile_append_of_pos late
      rw [List.append_nil] at dropped
      exact dropped
    simp [Json.readAll, object, nothing]
  generalize text : document.toList = characters at written
  cases written with
  | @empty before space after early inside late =>
    exact whole early late (readMembers_end inside true all) text
  | @object before members after entries early inside late =>
    refine whole early late ?_ text
    have enough : members.length < (members ++ '\x7d' :: after).length + 1 := by
      simp only [List.length_append, List.length_cons]
      omega
    have start (before rest : List Char) (early : IsBlank before) :
        Format.readMemberStart true ([] ++ (before ++ '"' :: rest)) = .ok (true, rest) :=
      readMemberStart_first early rest
    simpa using inside.read enough start once (fun _ _ => List.not_mem_nil) (by simpa using all)

end Records

end ChannelBus.Json
