import BenefitCasework.Calendar.Written

/-!
Contract: the text of a day tells it.

Owns:
- `Text.leadingNatural?_padded`, a padded number that is read back in front of
  anything but a digit;
- one such law for each part of a day, and `Date.parse?_text`.

Does not own: the text of moments, and the other ways to write a day.
-/

namespace BenefitCasework

/-! ### Numbers in digits -/

namespace Text

theorem digitValue_of_isDigit {character : Char} (digit : character.isDigit = true) :
    digitValue character = some (character.toNat - '0'.toNat) := by
  have bounds : '0' ≤ character ∧ character ≤ '9' := by
    simpa [Char.isDigit, Char.le_def] using digit
  rw [digitValue, if_pos bounds]

theorem extendNatural?_of_digits {digits : List Char}
    (all : ∀ character ∈ digits, character.isDigit = true) (value : Nat) :
    extendNatural? value digits = some (Nat.ofDigitChars 10 digits value) := by
  induction digits generalizing value with
  | nil => rfl
  | cons character rest inductionHypothesis =>
      have first := digitValue_of_isDigit (all character List.mem_cons_self)
      have others := inductionHypothesis fun other member =>
        all other (List.mem_cons_of_mem _ member)
      rw [extendNatural?, first, Nat.ofDigitChars_cons, Nat.mul_comm 10 value]
      exact others _

theorem natural?_of_digits {digits : List Char} (nonempty : digits ≠ [])
    (all : ∀ character ∈ digits, character.isDigit = true) :
    natural? digits = some (Nat.ofDigitChars 10 digits 0) := by
  cases digits with
  | nil => exact absurd rfl nonempty
  | cons character rest => exact extendNatural?_of_digits all 0

section Padded

variable (width value : Nat)

theorem toList_padded : (padded width value).toList =
    List.replicate (width - (Nat.toDigits 10 value).length) '0' ++ Nat.toDigits 10 value := by
  rw [padded, String.toList_ofList]

theorem isDigit_of_mem_padded {character : Char}
    (member : character ∈ (padded width value).toList) :
    character.isDigit = true := by
  rw [toList_padded] at member
  rcases List.mem_append.mp member with zero | digit
  · rw [List.eq_of_mem_replicate zero]
    rfl
  · exact Nat.isDigit_of_mem_toDigits (by decide) (by decide) digit

theorem padded_ne_nil : (padded width value).toList ≠ [] := by
  rw [toList_padded]
  simp

theorem natural?_padded : natural? (padded width value).toList = some value := by
  rw [natural?_of_digits (padded_ne_nil width value) fun _ => isDigit_of_mem_padded width value,
    toList_padded, Nat.ofDigitChars_append, Nat.ofDigitChars_replicate_zero, Nat.mul_zero,
    Nat.ofDigitChars_ten_toDigits]

theorem length_padded :
    (padded width value).toList.length = max width (Nat.toDigits 10 value).length := by
  rw [toList_padded, List.length_append, List.length_replicate]
  omega

end Padded

theorem length_padded_of_lt {width value : Nat} (positive : 0 < width)
    (small : value < Nat.pow 10 width) : (padded width value).toList.length = width := by
  rw [length_padded]
  exact Nat.max_eq_left ((Nat.length_toDigits_le_iff (by decide) positive).mpr small)

theorem length_padded_le {width value bound : Nat} (wide : width ≤ bound) (positive : 0 < bound)
    (small : value < Nat.pow 10 bound) : (padded width value).toList.length ≤ bound := by
  rw [length_padded]
  exact Nat.max_le.mpr ⟨wide, (Nat.length_toDigits_le_iff (by decide) positive).mpr small⟩

/-- No digit stands in front. -/
def StartsWithoutDigit (rest : List Char) : Prop :=
  ∀ character ∈ rest.head?, (digitValue character).isSome = false

theorem startsWithoutDigit_nil : StartsWithoutDigit [] := by
  intro character absent
  cases absent

theorem startsWithoutDigit_cons {first : Char} (mark : (digitValue first).isSome = false)
    (rest : List Char) : StartsWithoutDigit (first :: rest) := by
  intro character same
  cases same
  exact mark

/-- A padded number is read back, if what follows is no digit and the limit does
not cut it. -/
theorem leadingNatural?_padded {width value limit : Nat} {rest : List Char}
    (fits : (padded width value).toList.length ≤ limit) (ends : StartsWithoutDigit rest) :
    leadingNatural? limit ((padded width value).toList ++ rest) = some (value, rest) := by
  have digits : ∀ character ∈ (padded width value).toList,
      (digitValue character).isSome = true := fun character member => by
    rw [digitValue_of_isDigit (isDigit_of_mem_padded width value member)]
    rfl
  have nothing : rest.takeWhile (fun character => (digitValue character).isSome) = [] := by
    cases rest with
    | nil => rfl
    | cons first others => exact List.takeWhile_cons_of_neg (by simp [ends first rfl])
  have taken : (((padded width value).toList ++ rest).takeWhile fun character =>
      (digitValue character).isSome).take limit = (padded width value).toList := by
    rw [List.takeWhile_append_of_pos digits, nothing, List.append_nil, List.take_of_length_le fits]
  simp only [leadingNatural?, taken, natural?_padded, List.drop_left]

theorem isSpace_of_isDigit {character : Char} (digit : character.isDigit = true) :
    isSpace character = false := by
  have bounds : 48 ≤ character.toNat ∧ character.toNat ≤ 57 := by
    simpa [Char.isDigit, UInt32.le_iff_toNat_le] using digit
  simp [isSpace]
  omega

/-- In front of a number no blanks are dropped. -/
theorem dropSpaces_padded (width value : Nat) (rest : List Char) :
    dropSpaces ((padded width value).toList ++ rest) = (padded width value).toList ++ rest := by
  obtain ⟨first, others, shape⟩ := List.exists_cons_of_ne_nil (padded_ne_nil width value)
  have digit : first.isDigit = true :=
    isDigit_of_mem_padded width value (shape ▸ List.mem_cons_self)
  rw [shape, List.cons_append, dropSpaces, List.dropWhile_cons_of_neg]
  simp [isSpace_of_isDigit digit]

end Text

/-! ### The parts of a day -/

namespace Calendar

theorem skipSeparator_cons {separator : Char} (visible : Text.isSpace separator = false)
    (rest : List Char) : skipSeparator separator (separator :: rest) = some rest := by
  simp [skipSeparator, Text.dropSpaces, visible]

theorem readField_padded {value : Nat} {rest : List Char} (small : value < 100)
    (ends : Text.StartsWithoutDigit rest) :
    readField ((Text.padded 2 value).toList ++ rest) = some (value, rest) := by
  have two : (Text.padded 2 value).toList.length ≤ 2 :=
    Text.length_padded_le (by decide) (by decide) small
  rw [readField, Text.dropSpaces_padded]
  exact Text.leadingNatural?_padded two ends

/-- A year that begins with a digit has no more than four. -/
theorem readYear_of_isDigit {first : Char} (digit : first.isDigit = true) (rest : List Char) :
    readYear (first :: rest) = (Text.leadingNatural? 4 (first :: rest)).map fun (value, behind) =>
      ((value : Int), behind) := by
  have trimmed : Text.dropSpaces (first :: rest) = first :: rest := by
    rw [Text.dropSpaces, List.dropWhile_cons_of_neg]
    simp [Text.isSpace_of_isDigit digit]
  simp only [readYear, trimmed]
  split
  · rename_i same
    cases same
    cases digit
  · rename_i same
    cases same
    cases digit
  · rfl

/-- Of a signed year, the digits behind the sign are read up to what follows. -/
theorem readYear_signed {sign : Char} (signed : sign = '-' ∨ sign = '+') (value : Nat)
    {rest : List Char} (ends : Text.StartsWithoutDigit rest) :
    readYear (sign :: ((Text.padded 4 value).toList ++ rest)) =
      some (if sign = '-' then -(value : Int) else value, rest) := by
  have whole : (Text.padded 4 value).toList.length ≤
      ((Text.padded 4 value).toList ++ rest).length := by
    rw [List.length_append]
    exact Nat.le_add_right _ _
  have read := Text.leadingNatural?_padded whole ends
  rcases signed with rfl | rfl
  · have kept : ¬ Text.isSpace '-' = true := by decide
    simp only [readYear, Text.dropSpaces, List.dropWhile_cons_of_neg kept, read, Option.map_some]
    rfl
  · have kept : ¬ Text.isSpace '+' = true := by decide
    simp only [readYear, Text.dropSpaces, List.dropWhile_cons_of_neg kept, read, Option.map_some]
    rfl

theorem readYear_yearText (year : Int) (rest : List Char) :
    readYear ((Date.yearText year).toList ++ '-' :: rest) = some (year, '-' :: rest) := by
  have ends : Text.StartsWithoutDigit ('-' :: rest) :=
    Text.startsWithoutDigit_cons (by decide) rest
  unfold Date.yearText
  split
  · rename_i common
    have small : year.toNat < 10000 := by omega
    have four : (Text.padded 4 year.toNat).toList.length ≤ 4 :=
      Text.length_padded_le (by decide) (by decide) small
    have read : Text.leadingNatural? 4 ((Text.padded 4 year.toNat).toList ++ '-' :: rest) =
        some (year.toNat, '-' :: rest) := Text.leadingNatural?_padded four ends
    obtain ⟨first, others, shape⟩ := List.exists_cons_of_ne_nil (Text.padded_ne_nil 4 year.toNat)
    have digit : first.isDigit = true :=
      Text.isDigit_of_mem_padded 4 year.toNat (shape ▸ List.mem_cons_self)
    rw [shape, List.cons_append] at read ⊢
    rw [readYear_of_isDigit digit, read, Option.map_some]
    simp only [Int.toNat_of_nonneg common.1]
  · by_cases negative : year < 0
    · have value : -(year.natAbs : Int) = year := by omega
      rw [if_pos negative, String.toList_append]
      exact (readYear_signed (.inl rfl) year.natAbs ends).trans (by rw [if_pos rfl, value])
    · have value : (year.natAbs : Int) = year := by omega
      rw [if_neg negative, String.toList_append]
      exact (readYear_signed (.inr rfl) year.natAbs ends).trans
        (by rw [if_neg (by decide), value])

theorem toList_text (date : Date) : date.text.toList =
    (Date.yearText date.year).toList ++ '-' :: ((Text.padded 2 date.month).toList ++
      '-' :: (Text.padded 2 date.day).toList) := by
  simp [Date.text, String.toList_append]

/-- A day is read in front of anything but a digit. -/
theorem readDate_text (date : Date) {rest : List Char} (ends : Text.StartsWithoutDigit rest) :
    readDate (date.text.toList ++ rest) = some (date, rest) := by
  obtain ⟨year, month, day, valid⟩ := date
  have shortMonth : month < 100 := by
    obtain ⟨-, -, -, bound, -⟩ := valid
    omega
  have shortDay : day < 100 := by
    have bound := Date.day_lt ⟨year, month, day, valid⟩
    exact Nat.lt_trans bound (by decide)
  have hyphen (behind : List Char) : Text.StartsWithoutDigit ('-' :: behind) :=
    Text.startsWithoutDigit_cons (by decide) behind
  have skipped (behind : List Char) : skipSeparator '-' ('-' :: behind) = some behind :=
    skipSeparator_cons (by decide) behind
  rw [toList_text, List.append_assoc, List.cons_append, List.append_assoc, List.cons_append]
  simp only [readDate, readYear_yearText, skipped, readField_padded shortMonth (hyphen _),
    readField_padded shortDay ends, Date.ofParts?, dif_pos valid, Option.bind_eq_bind,
    Option.bind_some]
  rfl

end Calendar

/-- The text of a day is short. -/
theorem Date.length_text_le (date : Date) : date.text.toList.length ≤ 16 := by
  obtain ⟨lowest, highest, -, latest, -⟩ := date.valid
  have day := date.day_lt
  have yearDigits : ∀ value : Nat, value < 1000000 → (Text.padded 4 value).toList.length ≤ 6 :=
    fun value small => Text.length_padded_le (by decide) (by decide) small
  have year : (yearText date.year).toList.length ≤ 7 := by
    unfold yearText
    split
    · have digits := yearDigits date.year.toNat (by omega)
      omega
    · have digits := yearDigits date.year.natAbs (by omega)
      have sign : (if date.year < 0 then "-" else "+").toList.length = 1 := by
        split <;> rfl
      rw [String.toList_append, List.length_append, sign]
      omega
  have two : ∀ value < 100, (Text.padded 2 value).toList.length ≤ 2 :=
    fun value small => Text.length_padded_le (by decide) (by decide) small
  have monthDigits := two date.month (by omega)
  have dayDigits := two date.day (by omega)
  rw [Calendar.toList_text, List.length_append, List.length_cons, List.length_append,
    List.length_cons]
  omega

theorem Date.parse?_text (date : Date) : Date.parse? date.text = some date := by
  have read := Calendar.readDate_text date Text.startsWithoutDigit_nil
  rw [List.append_nil] at read
  simp [parse?, read, Text.dropSpaces]

end BenefitCasework
