import ChannelBus.Proofs.Reading

/-!
# How values are written

`Shows` tells which characters show a value, whatever space stands between its tokens and however
its texts are spelled. Both layouts show the value that they are made from, at any depth, and what
shows a value is allowed by the grammar of skipped values, so a member with it can stand under a key
that nobody knows.
-/

namespace ChannelBus.Json

/-! ## What characters show -/

/-- What characters can show: a value, the elements of an array or the members of an object. -/
inductive Part where
  /-- A value. -/
  | value (value : Value)
  /-- The elements of an array that is not empty. -/
  | elements (items : List Value)
  /-- The members of an object that is not empty. -/
  | members (members : List (String × Value))

/-- The rule of the grammar for a part. -/
def Part.rule : Part → Rule
  | .value _ => .value
  | .elements _ => .elements
  | .members _ => .members

/-- The characters that show a part. -/
inductive Shows : List Char → Part → Prop where
  /-- Null. -/
  | null : Shows ['n', 'u', 'l', 'l'] (.value .null)
  /-- A truth value. -/
  | boolean (value : Bool) : Shows (Value.boolText value).toList (.value (.boolean value))
  /-- A number. -/
  | number (value : Nat) : Shows (toString value).toList (.value (.number value))
  /-- A text. -/
  | text {body : List Char} {text : String} (spells : Spells body text.toList) :
    Shows ('"' :: (body ++ ['"'])) (.value (.text text))
  /-- An array without elements. -/
  | noElements {space : List Char} (isBlank : IsBlank space) :
    Shows ('[' :: (space ++ [']'])) (.value (.array []))
  /-- An array. -/
  | array {elements : List Char} {items : List Value} (inside : Shows elements (.elements items)) :
    Shows ('[' :: (elements ++ [']'])) (.value (.array items))
  /-- An object without members. -/
  | noMembers {space : List Char} (isBlank : IsBlank space) :
    Shows ('\x7b' :: (space ++ ['\x7d'])) (.value (.object []))
  /-- An object. -/
  | object {text : List Char} {members : List (String × Value)}
    (inside : Shows text (.members members)) :
    Shows ('\x7b' :: (text ++ ['\x7d'])) (.value (.object members))
  /-- The last element of an array. -/
  | lastElement {before text after : List Char} {value : Value} (early : IsBlank before)
    (shown : Shows text (.value value)) (late : IsBlank after) :
    Shows (before ++ (text ++ after)) (.elements [value])
  /-- An element of an array with others behind it. -/
  | element {before text after elements : List Char} {value : Value} {items : List Value}
    (early : IsBlank before) (shown : Shows text (.value value)) (late : IsBlank after)
    (others : Shows elements (.elements items)) :
    Shows (before ++ (text ++ (after ++ ',' :: elements))) (.elements (value :: items))
  /-- The last member of an object. -/
  | lastMember {before key gap between text after : List Char} {name : String} {value : Value}
    (early : IsBlank before) (spells : Spells key name.toList) (opens : IsBlank gap)
    (closes : IsBlank between) (shown : Shows text (.value value)) (late : IsBlank after) :
    Shows (before ++ '"' :: (key ++ '"' :: (gap ++ ':' :: (between ++ (text ++ after)))))
      (.members [(name, value)])
  /-- A member of an object with others behind it. -/
  | member {before key gap between text after more : List Char} {name : String} {value : Value}
    {members : List (String × Value)} (early : IsBlank before) (spells : Spells key name.toList)
    (opens : IsBlank gap) (closes : IsBlank between) (shown : Shows text (.value value))
    (late : IsBlank after) (others : Shows more (.members members)) :
    Shows (before ++ '"' :: (key ++ '"' :: (gap ++ ':' :: (between ++ (text ++
      (after ++ ',' :: more)))))) (.members ((name, value) :: members))

/-! ## What shows a value can be skipped -/

section Grammar

variable {written text : List Char}

/-- The four characters of a code unit are digits. -/
theorem IsCode.isSome_hexDigit? {a b c d : Char} {unit : Nat} (isCode : IsCode a b c d unit) :
    ∀ digit ∈ [a, b, c, d], (hexDigit? digit).isSome = true := by
  cases isCode with
  | digits isFirst isSecond isThird isFourth => simp [isFirst, isSecond, isThird, isFourth]

/-- What spells a text may stand between quotes. -/
theorem Spells.isBody (spells : Spells written text) : IsBody written := by
  induction spells with
  | done => exact .done
  | plain unquoted unescaped shown _ ih => exact .plain unquoted unescaped shown ih
  | short escapes _ ih => exact .short (by simp [escapes]) ih
  | code isCode _ _ ih => exact .code isCode.isSome_hexDigit? ih
  | pair isHigh isLow _ _ ih =>
    exact .code isHigh.isSome_hexDigit? (.code isLow.isSome_hexDigit? ih)

/-- The digits of a number are a number of the grammar. -/
theorem isNumeral_toString (number : Nat) : IsNumeral (toString number).toList := by
  have whole : IsWhole (Nat.toDigits 10 number) := by
    rcases Nat.eq_zero_or_pos number with rfl | positive
    · exact .zero
    · obtain ⟨first, rest, digits, other⟩ := head_toDigits_ne positive
      have all : ∀ c ∈ first :: rest, c.isDigit = true := fun c inside =>
        Nat.isDigit_of_mem_toDigits (by decide) (by decide) (digits ▸ inside)
      rw [digits]
      exact .positive (all first List.mem_cons_self) other fun c inside =>
        all c (List.mem_cons_of_mem _ inside)
  have numeral := IsNumeral.unsigned whole .absent .absent
  rwa [List.append_nil, List.append_nil, ← String.toList_ofList (l := Nat.toDigits 10 number),
    ← Nat.toString_eq_ofList_toDigits] at numeral

/-- What shows a part is allowed by the grammar. -/
theorem Shows.isWritten {part : Part} (shows : Shows text part) : IsWritten part.rule text := by
  induction shows with
  | null => exact .null
  | boolean value =>
    cases value with
    | true => exact .yes
    | false => exact .no
  | number value => exact .number (isNumeral_toString value)
  | text spells => exact .text spells.isBody
  | noElements isBlank => exact .noElements isBlank
  | array _ ih => exact .array ih
  | noMembers isBlank => exact .noMembers isBlank
  | object _ ih => exact .object ih
  | lastElement early _ late ih => exact .lastElement early ih late
  | element early _ late _ ih ihOthers => exact .element early ih late ihOthers
  | lastMember early spells opens closes _ late ih =>
    exact .lastMember early spells.isBody opens closes ih late
  | member early spells opens closes _ late _ ih ihOthers =>
    exact .member early spells.isBody opens closes ih late ihOthers

end Grammar

/-! ## Both layouts show their value -/

namespace Value

/-- A property holds of every value if it holds of an array whenever it holds of all elements, and
of an object whenever it holds of the values of all members. -/
@[elab_as_elim]
theorem byParts {motive : Value → Prop} (null : motive .null)
    (boolean : ∀ value, motive (.boolean value)) (number : ∀ value, motive (.number value))
    (text : ∀ value, motive (.text value))
    (array : ∀ items, (∀ item ∈ items, motive item) → motive (.array items))
    (object : ∀ members, (∀ member ∈ members, motive member.2) → motive (.object members))
    (value : Value) : motive value := by
  match value with
  | .null => exact null
  | .boolean value => exact boolean value
  | .number value => exact number value
  | .text value => exact text value
  | .array items =>
    exact array items fun item _ => byParts null boolean number text array object item
  | .object members =>
    exact object members fun member _ => byParts null boolean number text array object member.2
termination_by value
decreasing_by
  · have smaller := List.sizeOf_lt_of_mem ‹_›
    simp only [Value.array.sizeOf_spec]
    omega
  · have smaller := List.sizeOf_lt_of_mem ‹_›
    obtain ⟨name, value⟩ := member
    simp only [Value.object.sizeOf_spec, Prod.mk.sizeOf_spec] at smaller ⊢
    omega

/-- The elements of an array, each in the compact layout. -/
theorem compactItems_eq (items : List Value) : compactItems items = items.map compact := by
  induction items with
  | nil => rfl
  | cons item items ih => rw [compactItems, ih, List.map_cons]

/-- The members of an object, each in the compact layout. -/
theorem compactMembers_eq (members : List (String × Value)) : compactMembers members =
    members.map fun member => writtenText member.1 ++ ":" ++ member.2.compact := by
  induction members with
  | nil => rfl
  | cons member members ih => rw [compactMembers, ih, List.map_cons]

/-- The elements of an array, each in the spread layout. -/
theorem spreadItems_eq (depth : Nat) (items : List Value) :
    spreadItems depth items = items.map (spreadAt depth) := by
  induction items with
  | nil => rfl
  | cons item items ih => rw [spreadItems, ih, List.map_cons]

/-- The members of an object, each in the spread layout. -/
theorem spreadMembers_eq (depth : Nat) (members : List (String × Value)) :
    spreadMembers depth members =
      members.map fun member => writtenText member.1 ++ ": " ++ spreadAt depth member.2 := by
  induction members with
  | nil => rfl
  | cons member members ih => rw [spreadMembers, ih, List.map_cons]

end Value

section Writers

variable {lead trail between : List Char} (write : Value → List Char)

/-- What is written between quotes shows the text. -/
theorem shows_writtenText (text : String) :
    Shows (writtenText text).toList (.value (.text text)) := by
  obtain ⟨body, quoted, spells⟩ := spells_writtenText text
  exact quoted ▸ .text spells

/-- Written values between commas, each after the same space, show the elements of an array. -/
theorem shows_elements (early : IsBlank lead) (late : IsBlank trail) {items : List Value}
    (shown : ∀ item ∈ items, Shows (write item) (.value item)) (some : items ≠ []) :
    Shows (lead ++ ((',' :: lead).intercalate (items.map write) ++ trail)) (.elements items) := by
  induction items with
  | nil => exact absurd rfl some
  | cons item items ih =>
    have here := shown item List.mem_cons_self
    cases items with
    | nil => simpa [List.intercalate_singleton] using Shows.lastElement early here late
    | cons next items =>
      have others := ih (fun other later => shown other (List.mem_cons_of_mem _ later))
        (List.cons_ne_nil _ _)
      simpa [List.intercalate_cons_cons] using Shows.element early here isBlank_nil others

/-- Written members between commas, each after the same space, show the members of an object. -/
theorem shows_members (early : IsBlank lead) (late : IsBlank trail) (closes : IsBlank between)
    {members : List (String × Value)}
    (shown : ∀ member ∈ members, Shows (write member.2) (.value member.2)) (some : members ≠ []) :
    Shows (lead ++ ((',' :: lead).intercalate (members.map fun member =>
      (writtenText member.1).toList ++ ':' :: (between ++ write member.2)) ++ trail))
      (.members members) := by
  induction members with
  | nil => exact absurd rfl some
  | cons member members ih =>
    obtain ⟨key, quoted, spells⟩ := spells_writtenText member.1
    have here := shown member List.mem_cons_self
    cases members with
    | nil =>
      have last := Shows.lastMember early spells isBlank_nil closes here late
      simpa [List.intercalate_singleton, quoted] using last
    | cons next members =>
      have others := ih (fun other later => shown other (List.mem_cons_of_mem _ later))
        (List.cons_ne_nil _ _)
      have more := Shows.member early spells isBlank_nil closes here isBlank_nil others
      simpa [List.intercalate_cons_cons, quoted] using more

/-- The compact layout shows the value. -/
theorem Value.shows_compact (value : Value) : Shows value.compact.toList (.value value) := by
  induction value using Value.byParts with
  | null => exact .null
  | boolean value => exact .boolean value
  | number value => exact .number value
  | text value => exact shows_writtenText value
  | array items ih =>
    by_cases none : items = []
    · subst none
      exact .noElements isBlank_nil
    · have inside := shows_elements (·.compact.toList) isBlank_nil isBlank_nil ih none
      simpa [compact, compactItems_eq, String.toList_intercalate, Function.comp_def]
        using Shows.array inside
  | object members ih =>
    by_cases none : members = []
    · subst none
      exact .noMembers isBlank_nil
    · have inside := shows_members (·.compact.toList) isBlank_nil isBlank_nil isBlank_nil ih none
      simpa [compact, compactMembers_eq, String.toList_intercalate, Function.comp_def]
        using Shows.object inside

/-- Line breaks and indentation are space. -/
theorem isBlank_lineBreak (depth : Nat) : IsBlank (Value.lineBreak depth).toList := by
  intro c inside
  simp only [Value.lineBreak, String.toList_append, String.toList_ofList, List.mem_append] at inside
  rcases inside with first | later
  · obtain rfl : c = '\n' := by simpa using first
    rfl
  · rw [List.eq_of_mem_replicate later]
    rfl

/-- The spread layout shows the value, however deep it is indented. -/
theorem Value.shows_spreadAt (value : Value) (depth : Nat) :
    Shows (value.spreadAt depth).toList (.value value) := by
  induction value using Value.byParts generalizing depth with
  | null => simpa [spreadAt] using Shows.null
  | boolean value => simpa [spreadAt] using Shows.boolean value
  | number value => simpa [spreadAt] using Shows.number value
  | text value => simpa [spreadAt] using shows_writtenText value
  | array items ih =>
    by_cases none : items = []
    · subst none
      simpa [spreadAt, spreadItems, bracketed] using Shows.noElements isBlank_nil
    · have inside := shows_elements (fun item => (spreadAt (depth + 1) item).toList)
        (isBlank_lineBreak (depth + 1)) (isBlank_lineBreak depth)
        (fun item listed => ih item listed (depth + 1)) none
      simpa [spreadAt, bracketed, spreadItems_eq, none, String.toList_intercalate,
        Function.comp_def] using Shows.array inside
  | object members ih =>
    by_cases none : members = []
    · subst none
      simpa [spreadAt, spreadMembers, bracketed] using Shows.noMembers isBlank_nil
    · have inside := shows_members (fun value => (spreadAt (depth + 1) value).toList)
        (isBlank_lineBreak (depth + 1)) (isBlank_lineBreak depth) isBlank_space
        (fun member listed => ih member listed (depth + 1)) none
      simpa [spreadAt, bracketed, spreadMembers_eq, none, String.toList_intercalate,
        Function.comp_def] using Shows.object inside

end Writers

/-! ## What the members of an object say -/

section Members

variable {ι β : Type} {means : List Char → List Char → List β → Prop} {keyOf : ι → String}
  {valueOf : ι → Value} {entryOf : ι → β} {items : List ι} {text : List Char}

/-- Members that are shown are the members of an object. -/
theorem Shows.isMembers
    (shows : Shows text (.members (items.map fun item => (keyOf item, valueOf item))))
    (said : ∀ item ∈ items, ∀ key value, Spells key (keyOf item).toList →
      Shows value (.value (valueOf item)) → means key value [entryOf item]) :
    IsMembers means text (items.map entryOf) := by
  induction items generalizing text with
  | nil => cases shows
  | cons item items ih =>
    have here := said item List.mem_cons_self
    cases items with
    | nil =>
      cases shows with
      | lastMember early spells opens closes shown late =>
        exact .last early opens closes late (here _ _ spells shown)
      | member _ _ _ _ _ _ others => cases others
    | cons next items =>
      cases shows with
      | member early spells opens closes shown late others =>
        have later := ih others fun other listed => said other (List.mem_cons_of_mem _ listed)
        exact .more early opens closes late (here _ _ spells shown) later

/-- An object that is shown is a document. -/
theorem Shows.isDocument
    (shows : Shows text (.value (.object (items.map fun item => (keyOf item, valueOf item)))))
    (said : ∀ item ∈ items, ∀ key value, Spells key (keyOf item).toList →
      Shows value (.value (valueOf item)) → means key value [entryOf item]) :
    IsDocument means text (items.map entryOf) := by
  generalize same : items.map (fun item => (keyOf item, valueOf item)) = members at shows
  cases shows with
  | noMembers isBlank =>
    obtain rfl := List.map_eq_nil_iff.mp same
    exact .empty isBlank_nil isBlank isBlank_nil
  | object inside =>
    subst same
    exact .object isBlank_nil (inside.isMembers said) isBlank_nil

end Members

end ChannelBus.Json
