/-
# Multipage.Proofs.Number.Spelling -- a number in letters of any case

The letters of a number are those of `inf`, `infinity` and `nan` and the `e` of an exponent, and
each of them is read in either case.  So the case of letters does not change a number
(`Binary.ofText?_asciiLower`), nor the quality that it spells (`Quality.ofText?_asciiLower`).
-/
import Multipage.Media.Quality
import Multipage.Proofs.Text.Case

namespace Multipage

set_option autoImplicit false

open Text

theorem toLower_eq_e_iff (c : Char) : c.toLower = 'e' ↔ c = 'e' ∨ c = 'E' := by
  rw [← Char.toNat_inj, ← Char.toNat_inj, ← Char.toNat_inj, toNat_toLower,
    show 'e'.toNat = 101 from rfl, show 'E'.toNat = 69 from rfl]
  split_ifs <;> omega

theorem toLower_ne_upperE (c : Char) : c.toLower ≠ 'E' := by
  rw [Ne, ← Char.toNat_inj, toNat_toLower, show 'E'.toNat = 69 from rfl]
  split_ifs <;> omega

theorem not_isDigit_of_isAlpha {c : Char} (letter : c.isAlpha = true) : c.isDigit = false := by
  rw [isAlpha_iff] at letter
  rw [Bool.eq_false_iff, Ne, isDigit_iff]
  omega

theorem isDigit_toLower (c : Char) : c.toLower.isDigit = c.isDigit :=
  toLower_blind Char.isDigit (fun _ => not_isDigit_of_isAlpha) c

/-- Digits have no case. -/
theorem asciiLower_of_digits {t : Text} (digits : ∀ c ∈ t, c.isDigit = true) :
    asciiLower t = t := by
  refine (List.map_congr_left fun c mem => ?_).trans (List.map_id t)
  refine toLower_of_not_isAlpha (Bool.eq_false_iff.mpr fun letter => ?_)
  exact absurd (digits c mem) (by simp [not_isDigit_of_isAlpha letter])

theorem takeWhile_isDigit_asciiLower (t : Text) :
    (asciiLower t).takeWhile Char.isDigit = t.takeWhile Char.isDigit := by
  have blind : Char.isDigit ∘ Char.toLower = Char.isDigit := funext isDigit_toLower
  rw [asciiLower, List.takeWhile_map, blind]
  exact asciiLower_of_digits fun c mem => List.mem_takeWhile_imp mem

theorem dropWhile_isDigit_asciiLower (t : Text) :
    (asciiLower t).dropWhile Char.isDigit = asciiLower (t.dropWhile Char.isDigit) := by
  have blind : Char.isDigit ∘ Char.toLower = Char.isDigit := funext isDigit_toLower
  rw [asciiLower, List.dropWhile_map, blind, asciiLower]

namespace Decimal

theorem splitSign_asciiLower (t : Text) :
    splitSign (asciiLower t) = ((splitSign t).1, asciiLower (splitSign t).2) := by
  cases t with
  | nil => rfl
  | cons c rest =>
      by_cases minus : c = '-'
      · subst minus
        rfl
      by_cases plus : c = '+'
      · subst plus
        rfl
      have lowerMinus : c.toLower ≠ '-' := mt (toLower_eq_mark_iff c '-' (by decide)).mp minus
      have lowerPlus : c.toLower ≠ '+' := mt (toLower_eq_mark_iff c '+' (by decide)).mp plus
      simp [splitSign, asciiLower_cons, minus, plus, lowerMinus, lowerPlus]

theorem exponentPart?_asciiLower (t : Text) : exponentPart? (asciiLower t) = exponentPart? t := by
  cases t with
  | nil => rfl
  | cons mark rest =>
      have sign := splitSign_asciiLower rest
      have isMark : (mark.toLower = 'e' ∨ mark.toLower = 'E') ↔ (mark = 'e' ∨ mark = 'E') := by
        simp [toLower_eq_e_iff, toLower_ne_upperE]
      rw [asciiLower_cons, exponentPart?, exponentPart?, sign]
      simp only [isMark, isRunOf_asciiLower isDigit_toLower]
      split
      · rename_i digits
        rw [asciiLower_of_digits ((isRunOf_iff ..).mp digits.2).2]
      · rfl

theorem ofText?_asciiLower (t : Text) : ofText? (asciiLower t) = ofText? t := by
  rw [ofText?, ofText?, takeWhile_isDigit_asciiLower, dropWhile_isDigit_asciiLower]
  cases after : t.dropWhile Char.isDigit with
  | nil => rfl
  | cons c rest =>
      by_cases point : c = '.'
      · subst point
        have exponent := exponentPart?_asciiLower (rest.dropWhile Char.isDigit)
        rw [← dropWhile_isDigit_asciiLower] at exponent
        rw [asciiLower_cons, show ('.').toLower = '.' from rfl]
        simp only [takeWhile_isDigit_asciiLower, exponent]
      · have lowerPoint : c.toLower ≠ '.' := mt (toLower_eq_mark_iff c '.' (by decide)).mp point
        have exponent := exponentPart?_asciiLower (c :: rest)
        rw [asciiLower_cons] at exponent ⊢
        simp [point, lowerPoint, exponent]

end Decimal

theorem Binary.ofText?_asciiLower (format : BinaryFormat) (t : Text) :
    ofText? format (asciiLower t) = ofText? format t := by
  rw [ofText?, ofText?, Decimal.splitSign_asciiLower]
  simp only [asciiLower_asciiLower, Decimal.ofText?_asciiLower]

theorem Quality.ofText?_asciiLower (t : Text) : ofText? (asciiLower t) = ofText? t := by
  rw [ofText?, ofText?, Binary.ofText?_asciiLower]

end Multipage
