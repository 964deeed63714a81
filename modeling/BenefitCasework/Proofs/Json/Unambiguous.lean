import BenefitCasework.Json.Reader
import BenefitCasework.Json.Writer
import BenefitCasework.Json.Sorted
import BenefitCasework.Proofs.Calendar.DateText

/-!
Contract: the text of an exact value tells it.

Owns:
- `Json.isExact`, the values that hold no floating-point number;
- `Json.readString_stringText`, a text that is read as it was written, whatever
  stands in it;
- `Json.Mark`, what the first character of a text says of the value;
- `Json.Tells`, values that are told by their text even if something stands
  behind it, and `Json.tells_of_isExact`;
- `Json.eq_of_text` and `Json.sorted_eq_of_canonicalText`.

Whatever stands behind a value must not begin with a digit, which could belong to
a number. Does not own: floating-point numbers, and blanks between values.
-/

namespace BenefitCasework.Json

/-! ### Exact values -/

mutual

/-- The value holds no floating-point number. -/
def isExact : Json → Bool
  | .decimal _ => false
  | .array items => areExact items
  | .object fields => haveExact fields
  | _ => true

def areExact : List Json → Bool
  | [] => true
  | item :: rest => isExact item && areExact rest

def haveExact : JsonFields → Bool
  | [] => true
  | (_, value) :: rest => isExact value && haveExact rest

end

theorem haveExact_iff {fields : JsonFields} :
    haveExact fields = true ↔ ∀ field ∈ fields, isExact field.2 = true := by
  induction fields with
  | nil => simp [haveExact]
  | cons head rest inductionHypothesis => simp [haveExact, inductionHypothesis]

theorem haveExact_put {name : String} {value : Json} {fields : JsonFields}
    (valueExact : isExact value = true) (exact : haveExact fields = true) :
    haveExact (put name value fields) = true := by
  rw [haveExact_iff] at exact ⊢
  intro field member
  rcases mem_put member with equal | present
  · rw [equal]
    exact valueExact
  · exact exact field present

mutual

/-- Sorting brings no floating-point number in. -/
theorem isExact_sorted : ∀ value : Json, isExact value = true → isExact (sorted value) = true
  | .null, exact => exact
  | .boolean _, exact => exact
  | .integer _, exact => exact
  | .decimal _, exact => exact
  | .string _, exact => exact
  | .array items, exact => areExact_sortedItems items exact
  | .object fields, exact => haveExact_sortedFields fields exact

theorem areExact_sortedItems : ∀ items : List Json, areExact items = true →
    areExact (sortedItems items) = true
  | [], _ => rfl
  | item :: rest, exact => by
      rw [areExact, Bool.and_eq_true] at exact
      rw [sortedItems, areExact, isExact_sorted item exact.1, areExact_sortedItems rest exact.2]
      rfl

theorem haveExact_sortedFields : ∀ fields : JsonFields, haveExact fields = true →
    haveExact (sortedFields fields) = true
  | [], _ => rfl
  | (name, value) :: rest, exact => by
      rw [haveExact, Bool.and_eq_true] at exact
      exact haveExact_put (isExact_sorted value exact.1) (haveExact_sortedFields rest exact.2)

end

/-! ### Texts -/

/-- A character stands for itself, or behind a backslash stands what reads as it. -/
theorem escape_cases (character : Char) :
    (character ≠ '"' ∧ character ≠ '\\' ∧ ¬ character.toNat < 32 ∧
        escape character = [character]) ∨
      ∃ code, escape character = '\\' :: code ∧
        ∀ rest, readEscape (code ++ rest) = some (character, rest) := by
  unfold escape
  by_cases quote : character = '"'
  · rw [if_pos quote, quote]
    exact .inr ⟨_, rfl, fun _ => rfl⟩
  · rw [if_neg quote]
    by_cases backslash : character = '\\'
    · rw [if_pos backslash, backslash]
      exact .inr ⟨_, rfl, fun _ => rfl⟩
    · rw [if_neg backslash]
      by_cases control : character.toNat < 32
      · rw [if_pos control]
        have same (code : Nat) (equal : character.toNat = code) : character = Char.ofNat code := by
          rw [← equal, Char.ofNat_toNat]
        split
        · rename_i equal
          exact .inr ⟨_, rfl, fun _ => congrArg some (Prod.ext (same 8 equal).symm rfl)⟩
        · rename_i equal
          exact .inr ⟨_, rfl, fun _ => congrArg some (Prod.ext (same 9 equal).symm rfl)⟩
        · rename_i equal
          exact .inr ⟨_, rfl, fun _ => congrArg some (Prod.ext (same 10 equal).symm rfl)⟩
        · rename_i equal
          exact .inr ⟨_, rfl, fun _ => congrArg some (Prod.ext (same 12 equal).symm rfl)⟩
        · rename_i equal
          exact .inr ⟨_, rfl, fun _ => congrArg some (Prod.ext (same 13 equal).symm rfl)⟩
        · refine .inr ⟨_, rfl, fun rest => ?_⟩
          have zero : Text.hexValue '0' = some 0 := by decide
          have high := @Text.hexValue_hexDigit (character.toNat / 16) (by omega)
          have low := @Text.hexValue_hexDigit (character.toNat % 16) (by omega)
          have whole : ((0 * 16 + 0) * 16 + character.toNat / 16) * 16 + character.toNat % 16 =
              character.toNat := by omega
          have plain : character.toNat < 0xD800 ∨ 0xE000 ≤ character.toNat := by omega
          simp only [List.cons_append, List.nil_append, readEscape, unitValue, zero, high, low,
            whole, if_pos plain, Char.ofNat_toNat]
      · rw [if_neg control]
        exact .inl ⟨quote, backslash, control, rfl⟩

/-- Escaped characters are read back up to the closing quote. -/
theorem readString_escaped (characters collected rest : List Char) {fuel : Nat}
    (enough : characters.length < fuel) :
    readString fuel collected (characters.flatMap escape ++ '"' :: rest) =
      some (String.ofList (collected.reverse ++ characters), rest) := by
  induction characters generalizing collected fuel with
  | nil =>
      obtain ⟨fuel, rfl⟩ := Nat.exists_eq_add_of_lt enough
      simp [readString]
  | cons character others inductionHypothesis =>
      obtain ⟨fuel, rfl⟩ := Nat.exists_eq_add_of_lt enough
      have behind := inductionHypothesis (character :: collected)
        (show others.length < (others.length + 1) + fuel by omega)
      rw [List.reverse_cons, List.append_assoc, List.singleton_append] at behind
      rw [List.flatMap_cons, List.append_assoc]
      rcases escape_cases character with
        ⟨noQuote, noBackslash, noControl, itself⟩ | ⟨code, escaped, readBack⟩
      · rw [itself, ← behind]
        simp [readString, noControl]
      · rw [escaped, ← behind]
        simp [readString, readBack]

/-- A text is read as it was written. -/
theorem readString_stringText (value : String) (rest : List Char) {fuel : Nat}
    (enough : value.toList.length < fuel) :
    ∃ behind, stringText value ++ rest = '"' :: behind ∧
      readString fuel [] behind = some (value, rest) := by
  refine ⟨value.toList.flatMap escape ++ '"' :: rest, ?_, ?_⟩
  · simp [stringText]
  · rw [readString_escaped value.toList [] rest enough]
    simp

theorem stringText_append_inj {left right : String} {leftRest rightRest : List Char}
    (same : stringText left ++ leftRest = stringText right ++ rightRest) :
    left = right ∧ leftRest = rightRest := by
  have enough : left.toList.length < left.toList.length + right.toList.length + 1 := by omega
  have enoughAgain : right.toList.length < left.toList.length + right.toList.length + 1 := by omega
  obtain ⟨behind, written, read⟩ := readString_stringText left leftRest enough
  obtain ⟨other, writtenAgain, readAgain⟩ := readString_stringText right rightRest enoughAgain
  rw [written, writtenAgain, List.cons.injEq] at same
  rw [same.2, readAgain] at read
  cases read
  exact ⟨rfl, rfl⟩

/-! ### Whole numbers -/

theorem digits_append_inj {left right : Nat} {leftRest rightRest : List Char}
    (leftEnds : Text.StartsWithoutDigit leftRest) (rightEnds : Text.StartsWithoutDigit rightRest)
    (same : Nat.toDigits 10 left ++ leftRest = Nat.toDigits 10 right ++ rightRest) :
    left = right ∧ leftRest = rightRest := by
  have unpadded (value : Nat) : (Text.padded 0 value).toList = Nat.toDigits 10 value := by
    rw [Text.toList_padded, Nat.zero_sub, List.replicate_zero, List.nil_append]
  have fits (value : Nat) (rest : List Char) :
      (Text.padded 0 value).toList.length ≤ (Nat.toDigits 10 value ++ rest).length := by
    rw [unpadded, List.length_append]
    exact Nat.le_add_right _ _
  have read := Text.leadingNatural?_padded (fits left leftRest) leftEnds
  have readAgain := Text.leadingNatural?_padded (fits right rightRest) rightEnds
  rw [unpadded, same] at read
  rw [unpadded, read] at readAgain
  cases readAgain
  exact ⟨rfl, rfl⟩

theorem digits_eq_cons (value : Nat) : ∃ first behind,
    Nat.toDigits 10 value = first :: behind ∧ first.isDigit = true := by
  obtain ⟨first, behind, shape⟩ :=
    List.exists_cons_of_ne_nil (@Nat.toDigits_ne_nil value 10)
  have member : first ∈ Nat.toDigits 10 value := shape ▸ List.mem_cons_self
  exact ⟨first, behind, shape, Nat.isDigit_of_mem_toDigits (by decide) (by decide) member⟩

/-- Digits are not mistaken for a sign. -/
theorem digits_append_ne_minus (value : Nat) (rest behind : List Char) :
    Nat.toDigits 10 value ++ rest ≠ '-' :: behind := by
  obtain ⟨first, others, shape, digit⟩ := digits_eq_cons value
  intro same
  rw [shape, List.cons_append, List.cons.injEq] at same
  rw [same.1] at digit
  cases digit

theorem integerText_append_inj {left right : Int} {leftRest rightRest : List Char}
    (leftEnds : Text.StartsWithoutDigit leftRest) (rightEnds : Text.StartsWithoutDigit rightRest)
    (same : integerText left ++ leftRest = integerText right ++ rightRest) :
    left = right ∧ leftRest = rightRest := by
  cases left with
  | ofNat left =>
      cases right with
      | ofNat right =>
          obtain ⟨rfl, rests⟩ := digits_append_inj leftEnds rightEnds same
          exact ⟨rfl, rests⟩
      | negSucc right => exact absurd same (digits_append_ne_minus _ _ _)
  | negSucc left =>
      cases right with
      | ofNat right => exact absurd same.symm (digits_append_ne_minus _ _ _)
      | negSucc right =>
          obtain ⟨equal, rests⟩ := digits_append_inj leftEnds rightEnds (List.cons.inj same).2
          cases equal
          exact ⟨rfl, rests⟩

/-! ### Values -/

/-- What kind of value a text begins. -/
inductive Mark where
  | null
  | truth (value : Bool)
  | number
  | text
  | items
  | fields

def Mark.ofFirst? (first : Char) : Option Mark :=
  if first = '-' ∨ first.isDigit = true then some .number
  else match first with
    | 'n' => some .null
    | 't' => some (.truth true)
    | 'f' => some (.truth false)
    | '"' => some .text
    | '[' => some .items
    | '\x7b' => some .fields
    | _ => none

def mark : Json → Mark
  | .null => .null
  | .boolean value => .truth value
  | .integer _ => .number
  | .decimal _ => .number
  | .string _ => .text
  | .array _ => .items
  | .object _ => .fields

theorem ofFirst?_characters {value : Json} (exact : value.isExact = true) :
    ∃ first behind, characters value = first :: behind ∧
      Mark.ofFirst? first = some value.mark := by
  cases value with
  | null => exact ⟨_, _, rfl, rfl⟩
  | boolean value => cases value <;> exact ⟨_, _, rfl, rfl⟩
  | integer value =>
      cases value with
      | ofNat value =>
          obtain ⟨first, behind, shape, digit⟩ := digits_eq_cons value
          exact ⟨first, behind, shape, if_pos (.inr digit)⟩
      | negSucc value => exact ⟨_, _, rfl, rfl⟩
  | decimal value => cases exact
  | string value => exact ⟨_, _, rfl, rfl⟩
  | array items => exact ⟨_, _, rfl, rfl⟩
  | object fields => exact ⟨_, _, rfl, rfl⟩

/-- Values of two kinds never begin one text. -/
theorem mark_eq_of_append {left right : Json} {leftRest rightRest : List Char}
    (leftExact : left.isExact = true) (rightExact : right.isExact = true)
    (same : characters left ++ leftRest = characters right ++ rightRest) :
    left.mark = right.mark := by
  obtain ⟨first, behind, written, kind⟩ := ofFirst?_characters leftExact
  obtain ⟨other, otherBehind, otherWritten, otherKind⟩ := ofFirst?_characters rightExact
  rw [written, otherWritten, List.cons_append, List.cons_append, List.cons.injEq] at same
  rw [same.1, otherKind] at kind
  exact (Option.some.inj kind).symm

/-- What stands behind an item of a list, up to the closing bracket. -/
def behindItem : List Json → List Char
  | [] => [']']
  | items => ',' :: itemCharacters items

theorem itemCharacters_cons (item : Json) (rest : List Json) :
    itemCharacters (item :: rest) = characters item ++ behindItem rest := by
  cases rest with
  | nil => rfl
  | cons next others => rfl

/-- What stands behind a field of an object, up to the closing brace. -/
def behindField : JsonFields → List Char
  | [] => ['\x7d']
  | fields => ',' :: fieldCharacters fields

theorem fieldCharacters_cons (name : String) (value : Json) (rest : JsonFields) :
    fieldCharacters ((name, value) :: rest) =
      stringText name ++ ':' :: (characters value ++ behindField rest) := by
  cases rest with
  | nil => rfl
  | cons next others => rfl

theorem startsWithoutDigit_behindItem (items : List Json) (rest : List Char) :
    Text.StartsWithoutDigit (behindItem items ++ rest) := by
  cases items with
  | nil => exact Text.startsWithoutDigit_cons (by decide) _
  | cons item others => exact Text.startsWithoutDigit_cons (by decide) _

theorem startsWithoutDigit_behindField (fields : JsonFields) (rest : List Char) :
    Text.StartsWithoutDigit (behindField fields ++ rest) := by
  cases fields with
  | nil => exact Text.startsWithoutDigit_cons (by decide) _
  | cons field others => exact Text.startsWithoutDigit_cons (by decide) _

/-- No value begins like the end of a list. -/
theorem characters_append_ne_bracket {value : Json} (exact : value.isExact = true)
    (rest behind : List Char) : characters value ++ rest ≠ ']' :: behind := by
  obtain ⟨first, others, written, kind⟩ := ofFirst?_characters exact
  intro same
  rw [written, List.cons_append, List.cons.injEq] at same
  rw [same.1] at kind
  cases kind

/-- Items are told up to the closing bracket if they are behind another one. -/
theorem items_told_of_behind {items others : List Json} {rest otherRest : List Char}
    (exact : areExact items = true) (otherExact : areExact others = true)
    (behind : behindItem items ++ rest = behindItem others ++ otherRest →
      items = others ∧ rest = otherRest)
    (same : itemCharacters items ++ rest = itemCharacters others ++ otherRest) :
    items = others ∧ rest = otherRest := by
  cases items with
  | nil =>
      cases others with
      | nil => exact ⟨rfl, List.append_cancel_left same⟩
      | cons other others =>
          rw [areExact, Bool.and_eq_true] at otherExact
          rw [itemCharacters_cons, List.append_assoc] at same
          exact absurd same.symm (characters_append_ne_bracket otherExact.1 _ _)
  | cons item items =>
      cases others with
      | nil =>
          rw [areExact, Bool.and_eq_true] at exact
          rw [itemCharacters_cons, List.append_assoc] at same
          exact absurd same (characters_append_ne_bracket exact.1 _ _)
      | cons other others => exact behind (congrArg (List.cons ',') same)

/-- Fields are told up to the closing brace if they are behind another one. -/
theorem fields_told_of_behind {fields others : JsonFields} {rest otherRest : List Char}
    (behind : behindField fields ++ rest = behindField others ++ otherRest →
      fields = others ∧ rest = otherRest)
    (same : fieldCharacters fields ++ rest = fieldCharacters others ++ otherRest) :
    fields = others ∧ rest = otherRest := by
  cases fields with
  | nil =>
      cases others with
      | nil => exact ⟨rfl, List.append_cancel_left same⟩
      | cons other others =>
          rw [fieldCharacters_cons] at same
          cases same
  | cons field fields =>
      cases others with
      | nil =>
          rw [fieldCharacters_cons] at same
          cases same
      | cons other others => exact behind (congrArg (List.cons ',') same)

/-- A value is told by its text, and so is what stands behind it. -/
def Tells (value : Json) : Prop :=
  ∀ {other : Json} {rest otherRest : List Char}, other.isExact = true →
    Text.StartsWithoutDigit rest → Text.StartsWithoutDigit otherRest →
    characters value ++ rest = characters other ++ otherRest → value = other ∧ rest = otherRest

-- The recursion through lists is on what stands behind an item: each list then begins
-- with a mark of its own, the empty one with the bracket.
mutual

theorem tells_of_isExact : ∀ value : Json, value.isExact = true → value.Tells
  | .null, exact, other, rest, otherRest, otherExact, _, _, same => by
      have kind := mark_eq_of_append exact otherExact same
      cases other with
      | null => exact ⟨rfl, List.append_cancel_left same⟩
      | _ => cases kind
  | .boolean value, exact, other, rest, otherRest, otherExact, _, _, same => by
      have kind := mark_eq_of_append exact otherExact same
      cases other with
      | boolean other =>
          cases kind
          exact ⟨rfl, List.append_cancel_left same⟩
      | _ => cases kind
  | .integer value, exact, other, rest, otherRest, otherExact, ends, otherEnds, same => by
      have kind := mark_eq_of_append exact otherExact same
      cases other with
      | integer other =>
          obtain ⟨rfl, rests⟩ := integerText_append_inj ends otherEnds same
          exact ⟨rfl, rests⟩
      | decimal other => cases otherExact
      | _ => cases kind
  | .decimal _, exact, _, _, _, _, _, _, _ => by cases exact
  | .string value, exact, other, rest, otherRest, otherExact, _, _, same => by
      have kind := mark_eq_of_append exact otherExact same
      cases other with
      | string other =>
          obtain ⟨rfl, rests⟩ := stringText_append_inj same
          exact ⟨rfl, rests⟩
      | _ => cases kind
  | .array items, exact, other, rest, otherRest, otherExact, _, _, same => by
      have kind := mark_eq_of_append exact otherExact same
      cases other with
      | array others =>
          obtain ⟨rfl, rests⟩ := items_told_of_behind exact otherExact
            (behindItem_told items others exact otherExact) (List.cons.inj same).2
          exact ⟨rfl, rests⟩
      | _ => cases kind
  | .object fields, exact, other, rest, otherRest, otherExact, _, _, same => by
      have kind := mark_eq_of_append exact otherExact same
      cases other with
      | object others =>
          obtain ⟨rfl, rests⟩ := fields_told_of_behind
            (behindField_told fields others exact otherExact) (List.cons.inj same).2
          exact ⟨rfl, rests⟩
      | _ => cases kind

theorem behindItem_told : ∀ (items others : List Json) {rest otherRest : List Char},
    areExact items = true → areExact others = true →
    behindItem items ++ rest = behindItem others ++ otherRest →
      items = others ∧ rest = otherRest
  | [], [], _, _, _, _, same => ⟨rfl, List.append_cancel_left same⟩
  | [], _ :: _, _, _, _, _, same => by cases same
  | _ :: _, [], _, _, _, _, same => by cases same
  | item :: items, other :: others, rest, otherRest, exact, otherExact, same => by
      rw [areExact, Bool.and_eq_true] at exact otherExact
      have written := (List.cons.inj same).2
      simp only [List.append_eq, itemCharacters_cons, List.append_assoc] at written
      obtain ⟨rfl, behind⟩ := tells_of_isExact item exact.1 otherExact.1
        (startsWithoutDigit_behindItem items rest) (startsWithoutDigit_behindItem others otherRest)
        written
      obtain ⟨rfl, rests⟩ := behindItem_told items others exact.2 otherExact.2 behind
      exact ⟨rfl, rests⟩

theorem behindField_told : ∀ (fields others : JsonFields) {rest otherRest : List Char},
    haveExact fields = true → haveExact others = true →
    behindField fields ++ rest = behindField others ++ otherRest →
      fields = others ∧ rest = otherRest
  | [], [], _, _, _, _, same => ⟨rfl, List.append_cancel_left same⟩
  | [], _ :: _, _, _, _, _, same => by cases same
  | _ :: _, [], _, _, _, _, same => by cases same
  | (name, value) :: fields, (otherName, other) :: others, rest, otherRest, exact, otherExact,
      same => by
      rw [haveExact, Bool.and_eq_true] at exact otherExact
      have written := (List.cons.inj same).2
      simp only [List.append_eq, fieldCharacters_cons, List.append_assoc, List.cons_append]
        at written
      obtain ⟨rfl, named⟩ := stringText_append_inj written
      obtain ⟨rfl, behind⟩ := tells_of_isExact value exact.1 otherExact.1
        (startsWithoutDigit_behindField fields rest)
        (startsWithoutDigit_behindField others otherRest) (List.cons.inj named).2
      obtain ⟨rfl, rests⟩ := behindField_told fields others exact.2 otherExact.2 behind
      exact ⟨rfl, rests⟩

end

/-- Two exact values never have one text. -/
theorem eq_of_text {left right : Json} (leftExact : left.isExact = true)
    (rightExact : right.isExact = true) (same : left.text = right.text) : left = right := by
  have characters := congrArg (fun written => written.toList ++ []) same
  simp only [text, String.toList_ofList] at characters
  exact (tells_of_isExact left leftExact rightExact Text.startsWithoutDigit_nil
    Text.startsWithoutDigit_nil characters).1

/-- One canonical text is written for values that differ in the order of fields
at most. -/
theorem sorted_eq_of_canonicalText {left right : Json} (leftExact : left.isExact = true)
    (rightExact : right.isExact = true) (same : left.canonicalText = right.canonicalText) :
    left.sorted = right.sorted :=
  eq_of_text (isExact_sorted left leftExact) (isExact_sorted right rightExact) same

end BenefitCasework.Json
