import ChannelBus.Json.Skip

/-!
# The grammar of a skipped value

The texts, numbers and values that a document may hold, written down as a grammar of their
characters, apart from the machine that skips them. Values, the elements of an array and the members
of an object refer to each other, so one predicate, `IsWritten`, with a `Rule` as its index stands
for the three of them.

The machine looks at one character at a time. It skips whatever the grammar allows, at any depth:
`IsWritten.skip` is an induction over the grammar in which the open arrays and objects are
arbitrary.
-/

namespace ChannelBus.Json

/-! ## Space, texts and numbers -/

/-- Nothing but space. -/
def IsBlank (space : List Char) : Prop :=
  ∀ c ∈ space, isSpace c = true

/-- No space is needed. -/
theorem isBlank_nil : IsBlank [] :=
  fun _ listed => absurd listed List.not_mem_nil

/-- A single space is space. -/
theorem isBlank_space : IsBlank [' '] := by
  intro c listed
  rw [List.mem_singleton.mp listed]
  rfl

/-- What may stand between the quotes of a text. -/
inductive IsBody : List Char → Prop where
  /-- Nothing more. -/
  | done : IsBody []
  /-- A character that stands for itself. -/
  | plain {c : Char} {rest : List Char} (unquoted : c ≠ '"') (unescaped : c ≠ '\\')
    (shown : ¬ c < ' ') (more : IsBody rest) : IsBody (c :: rest)
  /-- A short escape. -/
  | short {c : Char} {rest : List Char} (escapes : (shortEscape? c).isSome = true)
    (more : IsBody rest) : IsBody ('\\' :: c :: rest)
  /-- A code unit, by its four digits. -/
  | code {a b c d : Char} {rest : List Char}
    (digits : ∀ digit ∈ [a, b, c, d], (hexDigit? digit).isSome = true) (more : IsBody rest) :
    IsBody ('\\' :: 'u' :: a :: b :: c :: d :: rest)

/-- Decimal digits, at least one. -/
structure IsDigits (digits : List Char) : Prop where
  /-- There is one. -/
  some : digits ≠ []
  /-- Each of them is one. -/
  all : ∀ c ∈ digits, c.isDigit = true

/-- A whole number without a sign: no digit follows a leading zero. -/
inductive IsWhole : List Char → Prop where
  /-- Zero. -/
  | zero : IsWhole ['0']
  /-- Any other number. -/
  | positive {first : Char} {rest : List Char} (digit : first.isDigit = true)
    (leading : first ≠ '0') (digits : ∀ c ∈ rest, c.isDigit = true) : IsWhole (first :: rest)

/-- The fraction of a number. -/
inductive IsFraction : List Char → Prop where
  /-- No fraction. -/
  | absent : IsFraction []
  /-- Digits after a point. -/
  | present {digits : List Char} (written : IsDigits digits) : IsFraction ('.' :: digits)

/-- The exponent of a number. -/
inductive IsExponent : List Char → Prop where
  /-- No exponent. -/
  | absent : IsExponent []
  /-- Digits after the mark. -/
  | unsigned {mark : Char} {digits : List Char} (marked : mark = 'e' ∨ mark = 'E')
    (written : IsDigits digits) : IsExponent (mark :: digits)
  /-- A sign and digits after the mark. -/
  | signed {mark sign : Char} {digits : List Char} (marked : mark = 'e' ∨ mark = 'E')
    (isSign : sign = '+' ∨ sign = '-') (written : IsDigits digits) :
    IsExponent (mark :: sign :: digits)

/-- A number. -/
inductive IsNumeral : List Char → Prop where
  /-- Without a sign. -/
  | unsigned {whole fraction exponent : List Char} (isWhole : IsWhole whole)
    (isFraction : IsFraction fraction) (isExponent : IsExponent exponent) :
    IsNumeral (whole ++ (fraction ++ exponent))
  /-- With a minus sign. -/
  | negative {whole fraction exponent : List Char} (isWhole : IsWhole whole)
    (isFraction : IsFraction fraction) (isExponent : IsExponent exponent) :
    IsNumeral ('-' :: (whole ++ (fraction ++ exponent)))

/-! ## Values -/

/-- A rule of the grammar. -/
inductive Rule where
  /-- A value. -/
  | value
  /-- The elements of an array that is not empty. -/
  | elements
  /-- The members of an object that is not empty. -/
  | members
deriving DecidableEq

/-- What the rules of the grammar allow. -/
inductive IsWritten : Rule → List Char → Prop where
  /-- Null. -/
  | null : IsWritten .value ['n', 'u', 'l', 'l']
  /-- True. -/
  | yes : IsWritten .value ['t', 'r', 'u', 'e']
  /-- False. -/
  | no : IsWritten .value ['f', 'a', 'l', 's', 'e']
  /-- A number. -/
  | number {numeral : List Char} (isNumeral : IsNumeral numeral) : IsWritten .value numeral
  /-- A text. -/
  | text {body : List Char} (isBody : IsBody body) : IsWritten .value ('"' :: (body ++ ['"']))
  /-- An array without elements. -/
  | noElements {space : List Char} (isBlank : IsBlank space) :
    IsWritten .value ('[' :: (space ++ [']']))
  /-- An array. -/
  | array {elements : List Char} (inside : IsWritten .elements elements) :
    IsWritten .value ('[' :: (elements ++ [']']))
  /-- An object without members. -/
  | noMembers {space : List Char} (isBlank : IsBlank space) :
    IsWritten .value ('\x7b' :: (space ++ ['\x7d']))
  /-- An object. -/
  | object {members : List Char} (inside : IsWritten .members members) :
    IsWritten .value ('\x7b' :: (members ++ ['\x7d']))
  /-- The last element of an array. -/
  | lastElement {before value after : List Char} (early : IsBlank before)
    (isValue : IsWritten .value value) (late : IsBlank after) :
    IsWritten .elements (before ++ (value ++ after))
  /-- An element of an array with others behind it. -/
  | element {before value after elements : List Char} (early : IsBlank before)
    (isValue : IsWritten .value value) (late : IsBlank after)
    (others : IsWritten .elements elements) :
    IsWritten .elements (before ++ (value ++ (after ++ ',' :: elements)))
  /-- The last member of an object. -/
  | lastMember {before key gap between value after : List Char} (early : IsBlank before)
    (isKey : IsBody key) (opens : IsBlank gap) (closes : IsBlank between)
    (isValue : IsWritten .value value) (late : IsBlank after) :
    IsWritten .members
      (before ++ '"' :: (key ++ '"' :: (gap ++ ':' :: (between ++ (value ++ after)))))
  /-- A member of an object with others behind it. -/
  | member {before key gap between value after members : List Char} (early : IsBlank before)
    (isKey : IsBody key) (opens : IsBlank gap) (closes : IsBlank between)
    (isValue : IsWritten .value value) (late : IsBlank after)
    (others : IsWritten .members members) :
    IsWritten .members
      (before ++ '"' :: (key ++ '"' :: (gap ++ ':' :: (between ++ (value ++
        (after ++ ',' :: members))))))

/-! ## Single characters -/

/-- The digits are ten. -/
theorem isDigit_cases {c : Char} (digit : c.isDigit = true) :
    c ∈ ['0', '1', '2', '3', '4', '5', '6', '7', '8', '9'] := by
  have bounds : 48 ≤ c.toNat ∧ c.toNat ≤ 57 := by
    simpa [Char.isDigit, UInt32.le_iff_toNat_le] using digit
  have named : ∀ code < 58, 48 ≤ code →
      Char.ofNat code ∈ ['0', '1', '2', '3', '4', '5', '6', '7', '8', '9'] := by decide
  rw [← Char.ofNat_toNat c]
  exact named c.toNat (Nat.lt_succ_of_le bounds.2) bounds.1

/-- A character that a digit of a number cannot be taken for. -/
theorem decimalDigit?_isSome {c : Char} : (decimalDigit? c).isSome = c.isDigit := by
  have same : ('0' ≤ c ∧ c ≤ '9') ↔ c.isDigit = true := by
    simp [Char.isDigit, Char.le_def, UInt32.le_iff_toNat_le]
  by_cases digit : c.isDigit = true
  · rw [decimalDigit?, if_pos (same.mpr digit), digit]
    rfl
  · rw [decimalDigit?, if_neg fun range => digit (same.mp range)]
    simp [digit]

/-- Whether a value can end before the rest: nothing follows, or a character that no number goes on
with. -/
def Delimits : List Char → Prop
  | [] => True
  | c :: _ => isSpace c = true ∨ c = ',' ∨ c = ']' ∨ c = '\x7d'

/-- The characters behind which a value can end. -/
theorem delimiter_cases {c : Char} {rest : List Char} (ends : Delimits (c :: rest)) :
    c ∈ [' ', '\n', '\t', '\r', ',', ']', '\x7d'] := by
  simp only [Delimits, isSpace, Bool.or_eq_true, beq_iff_eq] at ends
  simpa [or_assoc] using ends

/-! ## Steps of the machine -/

section Steps

variable {frames : List Frame} {place next : SkipPlace} {c : Char} {input rest : List Char}

/-- A character that the machine goes on with. -/
theorem skipFrom_go {after : List Frame} (moves : place.move frames c = .go next after) :
    skipFrom place frames (c :: rest) = skipFrom next after rest := by
  rw [skipFrom, moves]

/-- Characters in which the machine stays where it is. -/
theorem skipFrom_stay {run : List Char}
    (stays : ∀ c ∈ run, place.move frames c = .go place frames) :
    skipFrom place frames (run ++ rest) = skipFrom place frames rest := by
  induction run with
  | nil => rfl
  | cons c run ih =>
    rw [List.cons_append, skipFrom_go (stays c List.mem_cons_self)]
    exact ih fun other later => stays other (List.mem_cons_of_mem _ later)

/-- Space before a value is skipped. -/
theorem skip_blank_value {space : List Char} (blank : IsBlank space) :
    skipFrom .value frames (space ++ rest) = skipFrom .value frames rest :=
  skipFrom_stay fun c inside => by simp [SkipPlace.move, moveAtValue, blank c inside]

/-- Space before a key is skipped. -/
theorem skip_blank_key {space : List Char} (blank : IsBlank space) :
    skipFrom .key frames (space ++ rest) = skipFrom .key frames rest :=
  skipFrom_stay fun c inside => by simp [SkipPlace.move, moveAtKey, blank c inside]

/-- Space before a colon is skipped. -/
theorem skip_blank_colon {space : List Char} (blank : IsBlank space) :
    skipFrom .colon frames (space ++ rest) = skipFrom .colon frames rest :=
  skipFrom_stay fun c inside => by simp [SkipPlace.move, blank c inside]

/-- Space after a value inside an array or object is skipped. -/
theorem skip_blank_after {space : List Char} {frame : Frame} (blank : IsBlank space) :
    skipFrom .after (frame :: frames) (space ++ rest) = skipFrom .after (frame :: frames) rest :=
  skipFrom_stay fun c inside => by simp [SkipPlace.move, moveAfter, blank c inside]

/-- Space after an opening bracket is skipped. -/
theorem skip_blank_opened {space : List Char} {frame : Frame} (blank : IsBlank space) :
    skipFrom (.opened frame) frames (space ++ rest) = skipFrom (.opened frame) frames rest :=
  skipFrom_stay fun c inside => by simp [SkipPlace.move, moveAtOpened, blank c inside]

/-- A word is skipped letter by letter. -/
theorem skip_word {letter : Char} {letters : List Char} :
    skipFrom (.word (letter :: letters)) frames (letter :: letters ++ rest) =
      skipFrom .after frames rest := by
  induction letters generalizing letter with
  | nil => exact skipFrom_go (by simp [SkipPlace.move])
  | cons second letters ih =>
    have step : (SkipPlace.word (letter :: second :: letters)).move frames letter =
        .go (.word (second :: letters)) frames := by simp [SkipPlace.move]
    rw [List.cons_append, skipFrom_go step]
    exact ih

/-- A digit of a code unit is skipped. -/
theorem skip_hex {isKey : Bool} {missing : Nat} (digit : (hexDigit? c).isSome = true) :
    skipFrom (.code isKey missing) frames (c :: rest) =
      skipFrom (if 1 < missing then .code isKey (missing - 1) else .text isKey) frames rest :=
  skipFrom_go (by simp [SkipPlace.move, digit])

/-- The rest of a text is skipped. -/
theorem IsBody.skip {body : List Char} (isBody : IsBody body) (isKey : Bool) :
    skipFrom (.text isKey) frames (body ++ '"' :: rest) =
      skipFrom (if isKey then .colon else .after) frames rest := by
  have escape : (SkipPlace.text isKey).move frames '\\' = .go (.escape isKey) frames := rfl
  induction isBody with
  | done => exact skipFrom_go rfl
  | plain unquoted unescaped shown _ ih =>
    rw [List.cons_append, skipFrom_go, ih]
    simp [SkipPlace.move, moveInText, unquoted, unescaped, shown]
  | @short c more escapes _ ih =>
    have notCode : c ≠ 'u' := by
      rintro rfl
      cases escapes
    rw [List.cons_append, List.cons_append, skipFrom_go escape, skipFrom_go, ih]
    simp [SkipPlace.move, notCode, escapes]
  | @code a b c d more digits _ ih =>
    have code : (SkipPlace.escape isKey).move frames 'u' = .go (.code isKey 4) frames := rfl
    simp only [List.mem_cons, List.not_mem_nil, or_false, forall_eq_or_imp, forall_eq] at digits
    obtain ⟨first, second, third, fourth⟩ := digits
    simp only [List.cons_append]
    rw [skipFrom_go escape, skipFrom_go code, skip_hex first, if_pos (by decide), skip_hex second,
      if_pos (by decide), skip_hex third, if_pos (by decide), skip_hex fourth, if_neg (by decide),
      ih]

end Steps

/-! ## Numbers -/

section Numbers

variable {frames : List Frame} {place : SkipPlace} {c : Char} {rest : List Char}

/-- Where a number can be over. -/
def SkipPlace.endsNumber : SkipPlace → Bool
  | .zero | .whole | .fraction | .exponent => true
  | _ => false

/-- A number is over where the rest delimits it. -/
theorem skip_delimited (number : place.endsNumber = true) (ends : Delimits rest) :
    skipFrom place frames rest = skipFrom .after frames rest := by
  cases rest with
  | nil => cases place <;> first | rfl | cases number
  | cons c rest =>
    have same : place.move frames c = moveAfter frames c := by
      have listed := delimiter_cases ends
      simp only [List.mem_cons, List.not_mem_nil, or_false] at listed
      rcases listed with rfl | rfl | rfl | rfl | rfl | rfl | rfl <;>
        cases place <;> first | rfl | cases number
    have refused : place.failureAt (c :: rest) = SkipPlace.after.failureAt (c :: rest) := by
      cases place <;> first | rfl | cases number
    rw [skipFrom, skipFrom, same, refused]
    rfl

/-- In a place after digits, more digits change nothing. -/
theorem move_digit (c : Char) (digit : c.isDigit = true) :
    SkipPlace.whole.move frames c = .go .whole frames ∧
      SkipPlace.fraction.move frames c = .go .fraction frames ∧
      SkipPlace.exponent.move frames c = .go .exponent frames := by
  simp [SkipPlace.move, moveAfterDigit, decimalDigit?_isSome, digit]

/-- Digits are skipped where one must come. -/
theorem IsDigits.skip {digits : List Char} {next : SkipPlace} (written : IsDigits digits)
    (first : ∀ c, c.isDigit = true → place.move frames c = .go next frames)
    (more : ∀ c, c.isDigit = true → next.move frames c = .go next frames) :
    skipFrom place frames (digits ++ rest) = skipFrom next frames rest := by
  cases digits with
  | nil => exact absurd rfl written.some
  | cons c digits =>
    rw [List.cons_append, skipFrom_go (first c (written.all c List.mem_cons_self))]
    exact skipFrom_stay fun other later =>
      more other (written.all other (List.mem_cons_of_mem _ later))

/-- The digits of a whole number are skipped, with or without a sign before them. -/
theorem IsWhole.skip {whole : List Char} (isWhole : IsWhole whole)
    (start : place = .value ∨ place = .minus) :
    ∃ next, (next = .zero ∨ next = .whole) ∧
      skipFrom place frames (whole ++ rest) = skipFrom next frames rest := by
  cases isWhole with
  | zero =>
    refine ⟨.zero, .inl rfl, skipFrom_go ?_⟩
    rcases start with rfl | rfl <;> rfl
  | @positive first more digit leading digits =>
    have begins : place.move frames first = .go .whole frames := by
      have listed := isDigit_cases digit
      simp only [List.mem_cons, List.not_mem_nil, or_false, leading, false_or] at listed
      rcases listed with rfl | rfl | rfl | rfl | rfl | rfl | rfl | rfl | rfl <;>
        rcases start with rfl | rfl <;> rfl
    refine ⟨.whole, .inr rfl, ?_⟩
    rw [List.cons_append, skipFrom_go begins]
    exact skipFrom_stay fun c inside => (move_digit c (digits c inside)).1

/-- A fraction is skipped after the digits of a whole number. -/
theorem IsFraction.skip {fraction : List Char} (isFraction : IsFraction fraction)
    (start : place = .zero ∨ place = .whole) :
    ∃ next, (next = .zero ∨ next = .whole ∨ next = .fraction) ∧
      skipFrom place frames (fraction ++ rest) = skipFrom next frames rest := by
  cases isFraction with
  | absent => exact ⟨place, start.imp_right .inl, rfl⟩
  | present written =>
    have point : place.move frames '.' = .go .point frames := by
      rcases start with rfl | rfl <;> rfl
    refine ⟨.fraction, .inr (.inr rfl), ?_⟩
    rw [List.cons_append, skipFrom_go point]
    refine written.skip (fun c digit => ?_) fun c digit => (move_digit c digit).2.1
    simp [SkipPlace.move, moveAtDigit, decimalDigit?_isSome, digit]

/-- An exponent is skipped after the digits of a whole number or a fraction. -/
theorem IsExponent.skip {exponent : List Char} (isExponent : IsExponent exponent)
    (start : place = .zero ∨ place = .whole ∨ place = .fraction) :
    ∃ next : SkipPlace, next.endsNumber = true ∧
      skipFrom place frames (exponent ++ rest) = skipFrom next frames rest := by
  have mark {c : Char} (marked : c = 'e' ∨ c = 'E') :
      place.move frames c = .go .exponentMark frames := by
    rcases marked with rfl | rfl <;> rcases start with rfl | rfl | rfl <;> rfl
  cases isExponent with
  | absent =>
    refine ⟨place, ?_, rfl⟩
    rcases start with rfl | rfl | rfl <;> rfl
  | unsigned marked written =>
    refine ⟨.exponent, rfl, ?_⟩
    rw [List.cons_append, skipFrom_go (mark marked)]
    refine written.skip (fun c digit => ?_) fun c digit => (move_digit c digit).2.2
    have listed := isDigit_cases digit
    simp only [List.mem_cons, List.not_mem_nil, or_false] at listed
    rcases listed with rfl | rfl | rfl | rfl | rfl | rfl | rfl | rfl | rfl | rfl <;> rfl
  | @signed _ sign _ marked isSign written =>
    have signs : SkipPlace.exponentMark.move frames sign = .go .exponentSign frames := by
      rcases isSign with rfl | rfl <;> rfl
    refine ⟨.exponent, rfl, ?_⟩
    rw [List.cons_append, List.cons_append, skipFrom_go (mark marked), skipFrom_go signs]
    refine written.skip (fun c digit => ?_) fun c digit => (move_digit c digit).2.2
    simp [SkipPlace.move, moveAtDigit, decimalDigit?_isSome, digit]

/-- A number is skipped. -/
theorem IsNumeral.skip {numeral : List Char} (isNumeral : IsNumeral numeral)
    (ends : Delimits rest) :
    skipFrom .value frames (numeral ++ rest) = skipFrom .after frames rest := by
  have unsigned {place : SkipPlace} {whole fraction exponent : List Char}
      (start : place = .value ∨ place = .minus) (isWhole : IsWhole whole)
      (isFraction : IsFraction fraction) (isExponent : IsExponent exponent) :
      skipFrom place frames (whole ++ (fraction ++ exponent) ++ rest) =
        skipFrom .after frames rest := by
    rw [List.append_assoc, List.append_assoc]
    obtain ⟨afterWhole, placed, skipWhole⟩ := isWhole.skip start
    obtain ⟨afterFraction, placed, skipFraction⟩ := isFraction.skip placed
    obtain ⟨afterExponent, placed, skipExponent⟩ := isExponent.skip placed
    rw [skipWhole, skipFraction, skipExponent, skip_delimited placed ends]
  cases isNumeral with
  | unsigned isWhole isFraction isExponent =>
    exact unsigned (.inl rfl) isWhole isFraction isExponent
  | negative isWhole isFraction isExponent =>
    have minus : SkipPlace.value.move frames '-' = .go .minus frames := rfl
    rw [List.cons_append, skipFrom_go minus]
    exact unsigned (.inr rfl) isWhole isFraction isExponent

end Numbers

/-! ## Values at any depth -/

section Values

variable {frames : List Frame} {rest : List Char}

/-- A value can end before space and a character that ends it. -/
theorem IsBlank.delimits {space : List Char} {c : Char} (blank : IsBlank space)
    (ends : Delimits (c :: rest)) : Delimits (space ++ c :: rest) := by
  cases space with
  | nil => exact ends
  | cons first space => exact .inl (blank first List.mem_cons_self)

/-- A value starts with a character that is no space and closes no array. -/
theorem IsWritten.head {value : List Char} (isValue : IsWritten .value value) :
    ∃ c tail, value = c :: tail ∧ c ≠ ']' ∧ isSpace c = false := by
  have digit {c : Char} (isDigit : c.isDigit = true) : c ≠ ']' ∧ isSpace c = false := by
    have listed := isDigit_cases isDigit
    simp only [List.mem_cons, List.not_mem_nil, or_false] at listed
    rcases listed with rfl | rfl | rfl | rfl | rfl | rfl | rfl | rfl | rfl | rfl <;> decide
  cases isValue with
  | null | yes | no | text | noElements | array | noMembers | object =>
    exact ⟨_, _, rfl, by decide, by decide⟩
  | number isNumeral =>
    cases isNumeral with
    | negative => exact ⟨_, _, rfl, by decide, by decide⟩
    | unsigned isWhole =>
      cases isWhole with
      | zero => exact ⟨_, _, rfl, by decide, by decide⟩
      | positive isDigit => exact ⟨_, _, rfl, digit isDigit⟩

/-- The first element of an array is skipped like any other. -/
theorem IsWritten.skip_opened {elements : List Char} (inside : IsWritten .elements elements) :
    skipFrom (.opened .array) frames (elements ++ rest) =
      skipFrom .value frames (elements ++ rest) := by
  have first {before value : List Char} (early : IsBlank before)
      (isValue : IsWritten .value value) (after : List Char) :
      skipFrom (.opened .array) frames (before ++ (value ++ after)) =
        skipFrom .value frames (before ++ (value ++ after)) := by
    obtain ⟨c, tail, rfl, goesOn, shown⟩ := isValue.head
    rw [skip_blank_opened early, skip_blank_value early, List.cons_append, skipFrom, skipFrom]
    have same : (SkipPlace.opened .array).move frames c = SkipPlace.value.move frames c := by
      simp [SkipPlace.move, moveAtOpened, goesOn, shown]
    rw [same]
    rfl
  cases inside with
  | lastElement early isValue late | element early isValue late others =>
    simp only [List.append_assoc]
    exact first early isValue _

/-- The first member of an object is skipped like any other. -/
theorem IsWritten.skip_opened_object {members : List Char} (inside : IsWritten .members members) :
    skipFrom (.opened .object) frames (members ++ rest) =
      skipFrom .key frames (members ++ rest) := by
  cases inside with
  | lastMember early | member early =>
    simp only [List.append_assoc, List.cons_append]
    rw [skip_blank_opened early, skip_blank_key early]
    rfl

/-- What the machine does with what a rule allows. -/
def Rule.Skips (rule : Rule) (text : List Char) : Prop :=
  ∀ (frames : List Frame) (rest : List Char),
    match rule with
    | .value => Delimits rest →
      skipFrom .value frames (text ++ rest) = skipFrom .after frames rest
    | .elements =>
      skipFrom .value (.array :: frames) (text ++ ']' :: rest) = skipFrom .after frames rest
    | .members =>
      skipFrom .key (.object :: frames) (text ++ '\x7d' :: rest) = skipFrom .after frames rest

/-- A key, its colon and its value are skipped. -/
theorem skip_member {before key gap between value : List Char} (early : IsBlank before)
    (isKey : IsBody key) (opens : IsBlank gap) (closes : IsBlank between)
    (skips : Rule.value.Skips value) (ends : Delimits rest) :
    skipFrom .key frames
        (before ++ '"' :: (key ++ '"' :: (gap ++ ':' :: (between ++ (value ++ rest))))) =
      skipFrom .after frames rest := by
  have quote : SkipPlace.key.move frames '"' = .go (.text true) frames := rfl
  have colon : SkipPlace.colon.move frames ':' = .go .value frames := rfl
  rw [skip_blank_key early, skipFrom_go quote, isKey.skip true, if_pos rfl, skip_blank_colon opens,
    skipFrom_go colon, skip_blank_value closes]
  exact skips frames rest ends

/-- What the grammar allows is skipped, whatever arrays and objects are open. -/
theorem IsWritten.skip {rule : Rule} {text : List Char} (isWritten : IsWritten rule text) :
    rule.Skips text := by
  have comma (rest : List Char) : Delimits (',' :: rest) := .inr (.inl rfl)
  have bracket (rest : List Char) : Delimits (']' :: rest) := .inr (.inr (.inl rfl))
  have brace (rest : List Char) : Delimits ('\x7d' :: rest) := .inr (.inr (.inr rfl))
  induction isWritten with
  | null | yes | no =>
    intro frames rest _
    rw [List.cons_append, skipFrom_go rfl]
    exact skip_word
  | number isNumeral =>
    intro frames rest ends
    exact isNumeral.skip ends
  | text isBody =>
    intro frames rest _
    rw [List.cons_append, List.append_assoc, skipFrom_go rfl]
    exact isBody.skip false
  | noElements isBlank | noMembers isBlank =>
    intro frames rest _
    rw [List.cons_append, List.append_assoc, skipFrom_go rfl, skip_blank_opened isBlank]
    exact skipFrom_go rfl
  | array inside ih =>
    intro frames rest _
    rw [List.cons_append, List.append_assoc, skipFrom_go rfl, inside.skip_opened]
    exact ih frames rest
  | object inside ih =>
    intro frames rest _
    rw [List.cons_append, List.append_assoc, skipFrom_go rfl, inside.skip_opened_object]
    exact ih frames rest
  | lastElement early isValue late ih =>
    intro frames rest
    simp only [List.append_assoc]
    rw [skip_blank_value early, ih _ _ (late.delimits (bracket rest)), skip_blank_after late]
    exact skipFrom_go rfl
  | element early isValue late others ihValue ihOthers =>
    intro frames rest
    simp only [List.append_assoc, List.cons_append]
    rw [skip_blank_value early, ihValue _ _ (late.delimits (comma _)), skip_blank_after late,
      skipFrom_go rfl]
    exact ihOthers frames rest
  | lastMember early isKey opens closes isValue late ih =>
    intro frames rest
    simp only [List.append_assoc, List.cons_append]
    rw [skip_member early isKey opens closes ih (late.delimits (brace rest)), skip_blank_after late]
    exact skipFrom_go rfl
  | member early isKey opens closes isValue late others ihValue ihOthers =>
    intro frames rest
    simp only [List.append_assoc, List.cons_append]
    rw [skip_member early isKey opens closes ihValue (late.delimits (comma _)),
      skip_blank_after late, skipFrom_go rfl]
    exact ihOthers frames rest

/-- A written value is skipped up to its end. -/
theorem IsWritten.skipValue {space value : List Char} (blank : IsBlank space)
    (isValue : IsWritten .value value) (ends : Delimits rest) :
    Json.skipValue (space ++ (value ++ rest)) = .ok rest := by
  rw [Json.skipValue, skip_blank_value blank, isValue.skip [] rest ends]
  cases rest with
  | nil => rfl
  | cons c rest => rfl

end Values

end ChannelBus.Json
