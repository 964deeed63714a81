import BenefitCasework.Proofs.Calendar.DateText

/-!
Contract: the text of a moment tells it, but for a leap fraction in the middle of a
minute.

Owns:
- `Calendar.readFraction_fractionText`, reading back none, three, six or nine
  digits behind the second;
- `Calendar.readTime_written`, reading back a time of day, the second 60 counting
  as a leap second;
- `Instant.Regular`, the moments whose leap fractions stand at the end of a minute, and
  `Instant.shown`, the regular moment that a text shows;
- `Instant.timeCharacters`, the part of the text that tells the time of day;
- `Instant.parse?_text` and `Instant.text_eq_iff`.

Does not own: the other ways to write a moment, and other offsets than `Z`.
-/

namespace BenefitCasework

namespace Calendar

/-- Digits behind the point count as nanoseconds by their number. -/
theorem readFraction_padded {width value : Nat} {rest : List Char} (positive : 0 < width)
    (short : width ≤ 9) (small : value < Nat.pow 10 width) (ends : Text.StartsWithoutDigit rest) :
    readFraction ('.' :: ((Text.padded width value).toList ++ rest)) =
      some (value * Nat.pow 10 (9 - width), rest) := by
  have size := Text.length_padded_of_lt positive small
  have read := Text.leadingNatural?_padded (Nat.le_trans (Nat.le_of_eq size) short) ends
  have places : ((Text.padded width value).toList ++ rest).length - rest.length = width := by
    rw [List.length_append, size]
    omega
  have nothing : rest.dropWhile (fun character => (Text.digitValue character).isSome) = rest := by
    cases rest with
    | nil => rfl
    | cons first others => exact List.dropWhile_cons_of_neg (by simp [ends first rfl])
  simp only [readFraction, read, places, nothing]

/-- Behind the second stands nothing, or a point and the fewest digits that lose
nothing. -/
theorem fractionText_cases {nanosecond : Nat} (small : nanosecond < 1000000000) :
    (nanosecond = 0 ∧ Instant.fractionText nanosecond = "") ∨
      ∃ width value, 0 < width ∧ width ≤ 9 ∧ value < Nat.pow 10 width ∧
        value * Nat.pow 10 (9 - width) = nanosecond ∧
        (Instant.fractionText nanosecond).toList = '.' :: (Text.padded width value).toList := by
  have pointed (width value : Nat) :
      ("." ++ Text.padded width value).toList = '.' :: (Text.padded width value).toList :=
    String.toList_append
  unfold Instant.fractionText
  by_cases zero : nanosecond = 0
  · exact .inl ⟨zero, if_pos zero⟩
  · refine .inr ?_
    rw [if_neg zero]
    by_cases thousandths : nanosecond % 1000000 = 0
    · rw [if_pos thousandths]
      exact ⟨3, nanosecond / 1000000, by decide, by decide, Nat.div_lt_of_lt_mul small,
        Nat.div_mul_cancel (Nat.dvd_of_mod_eq_zero thousandths), pointed _ _⟩
    · rw [if_neg thousandths]
      by_cases millionths : nanosecond % 1000 = 0
      · rw [if_pos millionths]
        exact ⟨6, nanosecond / 1000, by decide, by decide, Nat.div_lt_of_lt_mul small,
          Nat.div_mul_cancel (Nat.dvd_of_mod_eq_zero millionths), pointed _ _⟩
      · rw [if_neg millionths]
        exact ⟨9, nanosecond, by decide, by decide, small, Nat.mul_one nanosecond, pointed _ _⟩

theorem readFraction_fractionText {nanosecond : Nat} (small : nanosecond < 1000000000)
    (rest : List Char) :
    readFraction ((Instant.fractionText nanosecond).toList ++ 'Z' :: rest) =
      some (nanosecond, 'Z' :: rest) := by
  rcases fractionText_cases small with
    ⟨zero, none⟩ | ⟨width, value, positive, short, digits, whole, written⟩
  · rw [none, zero]
    rfl
  · have ends : Text.StartsWithoutDigit ('Z' :: rest) :=
      Text.startsWithoutDigit_cons (by decide) rest
    rw [written, List.cons_append, readFraction_padded positive short digits ends, whole]

theorem startsWithoutDigit_fractionText {nanosecond : Nat} (small : nanosecond < 1000000000)
    (rest : List Char) :
    Text.StartsWithoutDigit ((Instant.fractionText nanosecond).toList ++ 'Z' :: rest) := by
  rcases fractionText_cases small with ⟨-, none⟩ | ⟨width, value, -, -, -, -, written⟩
  · rw [none]
    exact Text.startsWithoutDigit_cons (by decide) rest
  · rw [written]
    exact Text.startsWithoutDigit_cons (by decide) _

/-- A written time of day is read back; its second 60 is a leap second. -/
theorem readTime_written {hour minute second nanosecond : Nat} (hours : hour < 24)
    (minutes : minute < 60) (seconds : second ≤ 60) (small : nanosecond < 1000000000)
    (rest : List Char) :
    readTime ((Text.padded 2 hour).toList ++ ':' :: ((Text.padded 2 minute).toList ++
        ':' :: ((Text.padded 2 second).toList ++
          ((Instant.fractionText nanosecond).toList ++ 'Z' :: rest)))) =
      if second = 60 then
        some (hour * 3600 + minute * 60 + 59, nanosecond + 1000000000, 'Z' :: rest)
      else some (hour * 3600 + minute * 60 + second, nanosecond, 'Z' :: rest) := by
  have colon (behind : List Char) : Text.StartsWithoutDigit (':' :: behind) :=
    Text.startsWithoutDigit_cons (by decide) behind
  have skipped (behind : List Char) : skipSeparator ':' (':' :: behind) = some behind :=
    skipSeparator_cons (by decide) behind
  have fraction := startsWithoutDigit_fractionText small rest
  have inRange : hour < 24 ∧ minute < 60 ∧ second ≤ 60 := ⟨hours, minutes, seconds⟩
  simp only [readTime, readField_padded (Nat.lt_trans hours (by decide)) (colon _), skipped,
    readField_padded (Nat.lt_trans minutes (by decide)) (colon _),
    readField_padded (Nat.lt_of_le_of_lt seconds (by decide)) fraction,
    readFraction_fractionText small, Option.bind_eq_bind, Option.bind_some, if_pos inRange]
  split <;> rfl

end Calendar

namespace Instant

/-- What stands behind the `T` of a moment: the second counts to sixty in a leap
second. -/
def timeCharacters (instant : Instant) : List Char :=
  let leap := 1000000000 ≤ instant.nanosecond
  (Text.padded 2 (instant.second / 3600)).toList ++ ':' ::
    ((Text.padded 2 (instant.second / 60 % 60)).toList ++ ':' ::
      ((Text.padded 2 (instant.second % 60 + if leap then 1 else 0)).toList ++
        ((fractionText (if leap then instant.nanosecond - 1000000000
          else instant.nanosecond)).toList ++ ['Z'])))

theorem toList_text (instant : Instant) :
    instant.text.toList = instant.date.text.toList ++ 'T' :: instant.timeCharacters := by
  simp [text, timeCharacters, String.toList_append]

/-- A leap fraction stands in the last second of a minute only. -/
def Regular (instant : Instant) : Prop :=
  instant.nanosecond < 1000000000 ∨ instant.second % 60 = 59

instance (instant : Instant) : Decidable instant.Regular := by
  unfold Regular
  infer_instance

/-- The moment that the text shows. A leap fraction in the middle of a minute is
written as the second behind it. -/
def shown (instant : Instant) : Instant :=
  if regular : instant.Regular then instant
  else
    { instant with
      second := instant.second + 1
      nanosecond := instant.nanosecond - 1000000000
      valid := by
        have ofDay := instant.valid.1
        have ofSecond := instant.valid.2
        unfold Regular at regular
        exact ⟨by omega, by omega⟩ }

theorem shown_of_regular {instant : Instant} (regular : instant.Regular) :
    instant.shown = instant := dif_pos regular

theorem regular_shown (instant : Instant) : instant.shown.Regular := by
  unfold shown
  split
  · assumption
  · have ofSecond := instant.valid.2
    exact .inl (by dsimp only; omega)

theorem readTime_timeCharacters_of_regular {instant : Instant} (regular : instant.Regular) :
    Calendar.readTime instant.timeCharacters =
      some (instant.second, instant.nanosecond, ['Z']) := by
  obtain ⟨date, second, nanosecond, valid⟩ := instant
  obtain ⟨ofDay, ofSecond⟩ := id valid
  simp only [Regular] at regular
  have hours : second / 3600 < 24 := by omega
  have minutes : second / 60 % 60 < 60 := by omega
  unfold timeCharacters
  by_cases leap : 1000000000 ≤ nanosecond
  · have last : second % 60 = 59 := by omega
    have small : nanosecond - 1000000000 < 1000000000 := by omega
    have whole : second / 3600 * 3600 + second / 60 % 60 * 60 + 59 = second := by omega
    simp only [if_pos leap, last]
    rw [Calendar.readTime_written hours minutes (by decide) small, if_pos rfl, whole,
      Nat.sub_add_cancel leap]
  · have small : nanosecond < 1000000000 := by omega
    have below : second % 60 + 0 ≤ 60 := by omega
    have notSixty : ¬ second % 60 + 0 = 60 := by omega
    have whole : second / 3600 * 3600 + second / 60 % 60 * 60 + (second % 60 + 0) = second := by
      omega
    simp only [if_neg leap]
    rw [Calendar.readTime_written hours minutes below small, if_neg notSixty, whole]

/-- What is shown is shown by the same characters. -/
theorem timeCharacters_shown (instant : Instant) :
    instant.shown.timeCharacters = instant.timeCharacters := by
  by_cases regular : instant.Regular
  · rw [shown_of_regular regular]
  · obtain ⟨date, second, nanosecond, valid⟩ := instant
    obtain ⟨ofDay, ofSecond⟩ := id valid
    rw [shown, dif_neg regular]
    simp only [Regular] at regular
    have leap : 1000000000 ≤ nanosecond := by omega
    have noLeap : ¬ 1000000000 ≤ nanosecond - 1000000000 := by omega
    have hour : (second + 1) / 3600 = second / 3600 := by omega
    have minute : (second + 1) / 60 % 60 = second / 60 % 60 := by omega
    have inMinute : (second + 1) % 60 + 0 = second % 60 + 1 := by omega
    simp only [timeCharacters, if_pos leap, if_neg noLeap, hour, minute, inMinute]

theorem text_shown (instant : Instant) : instant.shown.text = instant.text := by
  have sameDay : instant.shown.date = instant.date := by
    unfold shown
    split <;> rfl
  rw [← String.toList_inj, toList_text, toList_text, timeCharacters_shown, sameDay]

/-- A time of day at the offset `Z` is that of the moment. -/
theorem ofLocal?_zero (instant : Instant) :
    ofLocal? instant.date instant.second instant.nanosecond 0 = some instant := by
  obtain ⟨date, second, nanosecond, valid⟩ := instant
  obtain ⟨ofDay, ofSecond⟩ := id valid
  have notBefore : ¬ (second : Int) - 0 < 0 := by omega
  have notBehind : ¬ (86400 : Int) ≤ (second : Int) - 0 := by omega
  have same : ((second : Int) - 0).toNat = second := by omega
  simp only [ofLocal?, if_neg notBefore, if_neg notBehind, same, ofParts?, dif_pos valid]

theorem parse?_text_of_regular {instant : Instant} (regular : instant.Regular) :
    Instant.parse? instant.text = some instant := by
  have dayMark (behind : List Char) : Text.StartsWithoutDigit ('T' :: behind) :=
    Text.startsWithoutDigit_cons (by decide) behind
  have offset : Calendar.readOffset ['Z'] = some (0, []) := rfl
  simp only [parse?, toList_text, Calendar.readDate_text instant.date (dayMark _),
    Calendar.skipDayMark, readTime_timeCharacters_of_regular regular, offset,
    Option.bind_eq_bind, Option.bind_some]
  exact ofLocal?_zero instant

/-- What is read back is what is shown. -/
theorem parse?_text (instant : Instant) : Instant.parse? instant.text = some instant.shown := by
  rw [← text_shown]
  exact parse?_text_of_regular instant.regular_shown

/-- Two moments have one text exactly when they show the same. -/
theorem text_eq_iff {first second : Instant} :
    first.text = second.text ↔ first.shown = second.shown := by
  constructor
  · intro same
    have read := congrArg Instant.parse? same
    rw [parse?_text, parse?_text] at read
    exact Option.some.inj read
  · intro same
    rw [← text_shown, same, text_shown]

end Instant

end BenefitCasework
