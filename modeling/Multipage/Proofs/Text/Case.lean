/-
# Multipage.Proofs.Text.Case -- letters of any case

Only the 26 letters of ASCII have a case, so a mark is equal to itself alone
(`Text.toLower_eq_mark_iff`).  So a star is equal to nothing but a star, and two texts that are
cut at one mark are equal when both halves are (`Text.eqIgnoringCase_cut_iff`).  No blank is a
letter either, so a text in lower case is cut and trimmed where the text is
(`Text.splitOn_asciiLower`, `Text.trim_asciiLower`).
-/
import Multipage.Proofs.Text.Cut

namespace Multipage.Text

set_option autoImplicit false

theorem isUpper_iff (c : Char) : c.isUpper = true ↔ 65 ≤ c.toNat ∧ c.toNat ≤ 90 := by
  show decide (c.val ≥ 'A'.val ∧ c.val ≤ 'Z'.val) = true ↔ _
  simp [UInt32.le_iff_toNat_le]

theorem isLower_iff (c : Char) : c.isLower = true ↔ 97 ≤ c.toNat ∧ c.toNat ≤ 122 := by
  show (decide (c.val ≥ 'a'.val) && decide (c.val ≤ 'z'.val)) = true ↔ _
  simp [UInt32.le_iff_toNat_le]

theorem isAlpha_iff (c : Char) :
    c.isAlpha = true ↔ 65 ≤ c.toNat ∧ c.toNat ≤ 90 ∨ 97 ≤ c.toNat ∧ c.toNat ≤ 122 := by
  show (c.isUpper || c.isLower) = true ↔ _
  rw [Bool.or_eq_true, isUpper_iff, isLower_iff]

theorem isDigit_iff (c : Char) : c.isDigit = true ↔ 48 ≤ c.toNat ∧ c.toNat ≤ 57 := by
  simp [Char.isDigit, UInt32.le_iff_toNat_le]

/-- A capital is 32 below its lower case, and all else is as it is. -/
theorem toNat_toLower (c : Char) :
    c.toLower.toNat = if 65 ≤ c.toNat ∧ c.toNat ≤ 90 then c.toNat + 32 else c.toNat := by
  have capital : c.val ≥ 'A'.val ∧ c.val ≤ 'Z'.val ↔ 65 ≤ c.toNat ∧ c.toNat ≤ 90 := by
    simp [UInt32.le_iff_toNat_le]
  show (dite (c.val ≥ 'A'.val ∧ c.val ≤ 'Z'.val) _ fun _ => c).toNat = _
  split_ifs with upper other other
  · show (c.val + ('a'.val - 'A'.val)).toNat = c.toNat + 32
    rw [UInt32.toNat_add, show ('a'.val - 'A'.val).toNat = 32 from rfl, Char.toNat_val]
    omega
  · exact absurd (capital.mp upper) other
  · exact absurd (capital.mpr other) upper
  · rfl

theorem toLower_of_not_isAlpha {c : Char} (noLetter : c.isAlpha = false) : c.toLower = c := by
  rw [Bool.eq_false_iff, Ne, isAlpha_iff] at noLetter
  rw [← Char.toNat_inj, toNat_toLower, if_neg (by omega)]

theorem isAlpha_toLower (c : Char) : c.toLower.isAlpha = c.isAlpha := by
  rw [Bool.eq_iff_iff, isAlpha_iff, isAlpha_iff, toNat_toLower]
  split_ifs <;> omega

theorem toLower_toLower (c : Char) : c.toLower.toLower = c.toLower := by
  rw [← Char.toNat_inj, toNat_toLower c.toLower, toNat_toLower c]
  split_ifs <;> omega

/-- What is no letter is the lower case of itself alone. -/
theorem toLower_eq_mark_iff (c mark : Char) (noLetter : mark.isAlpha = false) :
    c.toLower = mark ↔ c = mark := by
  constructor
  · rintro rfl
    rw [isAlpha_toLower] at noLetter
    exact (toLower_of_not_isAlpha noLetter).symm
  · rintro rfl
    exact toLower_of_not_isAlpha noLetter

theorem mem_asciiLower_iff (mark : Char) (noLetter : mark.isAlpha = false) (t : Text) :
    mark ∈ asciiLower t ↔ mark ∈ t := by
  simp [asciiLower, toLower_eq_mark_iff _ mark noLetter]

theorem asciiLower_cons (c : Char) (t : Text) : asciiLower (c :: t) = c.toLower :: asciiLower t :=
  rfl

theorem asciiLower_append (s t : Text) : asciiLower (s ++ t) = asciiLower s ++ asciiLower t :=
  List.map_append

theorem asciiLower_asciiLower (t : Text) : asciiLower (asciiLower t) = asciiLower t := by
  rw [asciiLower, asciiLower, List.map_map]
  exact List.map_congr_left fun c _ => toLower_toLower c

@[simp] theorem asciiLower_eq_nil_iff (t : Text) : asciiLower t = [] ↔ t = [] :=
  List.map_eq_nil_iff

theorem asciiLower_cut {mark : Char} (noLetter : mark.isAlpha = false) (s t : Text) :
    asciiLower (s ++ mark :: t) = asciiLower s ++ mark :: asciiLower t := by
  rw [asciiLower_append, asciiLower_cons, toLower_of_not_isAlpha noLetter]

theorem asciiLower_eq_star_iff (t : Text) : asciiLower t = ['*'] ↔ t = ['*'] := by
  cases t with
  | nil => simp [asciiLower]
  | cons c rest => simp [asciiLower, toLower_eq_mark_iff c '*' (by decide)]

/-! ## Cuts of a text in lower case -/

/-- What holds of no letter holds of a character in either case. -/
theorem toLower_blind (p : Char → Bool) (noLetter : ∀ c, c.isAlpha = true → p c = false)
    (c : Char) : p c.toLower = p c := by
  cases letter : c.isAlpha with
  | true =>
      have lower : c.toLower.isAlpha = true := by rw [isAlpha_toLower, letter]
      rw [noLetter c letter, noLetter c.toLower lower]
  | false => rw [toLower_of_not_isAlpha letter]

theorem isBlank_toLower (c : Char) : isBlank c.toLower = isBlank c := by
  refine toLower_blind isBlank (fun c letter => ?_) c
  rw [isAlpha_iff] at letter
  exact isBlank_of_visible (by omega) (by omega)

theorem splitOn_asciiLower {mark : Char} (noLetter : mark.isAlpha = false) (t : Text) :
    (asciiLower t).splitOn mark = (t.splitOn mark).map asciiLower := by
  have stays : ∀ {piece : Text}, mark ∉ piece → mark ∉ asciiLower piece :=
    fun single => mt (mem_asciiLower_iff mark noLetter _).mp single
  induction t using cut_induction mark with
  | last piece single =>
      rw [List.splitOn_eq_singleton single, List.splitOn_eq_singleton (stays single)]
      rfl
  | cut piece more single ih =>
      rw [asciiLower_cut noLetter, List.splitOn_append_cons_self_of_not_mem (stays single), ih,
        List.splitOn_append_cons_self_of_not_mem single, List.map_cons]

theorem splitOnce_asciiLower {mark : Char} (noLetter : mark.isAlpha = false) (t : Text) :
    splitOnce mark (asciiLower t) =
      (splitOnce mark t).map fun parts => (asciiLower parts.1, asciiLower parts.2) := by
  have same := mem_asciiLower_iff mark noLetter
  by_cases mem : mark ∈ t
  · obtain ⟨before, after, rfl, single⟩ := List.eq_append_cons_of_mem mem
    rw [asciiLower_cut noLetter, splitOnce_append _ _ _ (mt (same before).mp single),
      splitOnce_append _ _ _ single]
    rfl
  · rw [(splitOnce_eq_none_iff ..).mpr mem,
      (splitOnce_eq_none_iff ..).mpr (mt (same t).mp mem)]
    rfl

theorem trim_asciiLower (t : Text) : trim (asciiLower t) = asciiLower (trim t) := by
  obtain ⟨⟨left, right, cut, leftBlank, rightBlank⟩, first, last⟩ := trimsTo_trimBy isBlank t
  refine TrimsTo.trimBy_eq ⟨⟨asciiLower left, asciiLower right, ?_, ?_, ?_⟩, ?_, ?_⟩
  · rw [← asciiLower_append, trim, ← asciiLower_append, ← cut]
  · simpa [asciiLower, isBlank_toLower] using leftBlank
  · simpa [asciiLower, isBlank_toLower] using rightBlank
  · simpa [asciiLower, isBlank_toLower, trim] using first
  · simpa [asciiLower, isBlank_toLower, trim] using last

theorem isRunOf_asciiLower {p : Char → Bool} (blind : ∀ c, p c.toLower = p c) (t : Text) :
    isRunOf p (asciiLower t) = isRunOf p t := by
  simp [isRunOf, asciiLower, List.all_map, Function.comp_def, blind]

/-! ## Texts that are equal in letters of any case -/

theorem eqIgnoringCase_iff (a b : Text) :
    eqIgnoringCase a b = true ↔ asciiLower a = asciiLower b := beq_iff_eq

@[simp] theorem eqIgnoringCase_refl (a : Text) : eqIgnoringCase a a = true :=
  (eqIgnoringCase_iff a a).mpr rfl

@[simp] theorem eqIgnoringCase_asciiLower (a b : Text) :
    eqIgnoringCase (asciiLower a) (asciiLower b) = eqIgnoringCase a b := by
  rw [eqIgnoringCase, asciiLower_asciiLower, asciiLower_asciiLower, eqIgnoringCase]

theorem eqIgnoringCase_comm (a b : Text) : eqIgnoringCase a b = eqIgnoringCase b a := by
  simp only [eqIgnoringCase, Bool.beq_comm]

/-- Only a star is a star. -/
theorem eqIgnoringCase_star_iff (t : Text) : eqIgnoringCase ['*'] t = true ↔ t = ['*'] := by
  rw [eqIgnoringCase_iff, eq_comm, ← asciiLower_eq_star_iff t]
  rfl

/-- Texts that are cut at one mark are equal when their halves are. -/
theorem eqIgnoringCase_cut_iff (mark : Char) (noLetter : mark.isAlpha = false)
    {a b c d : Text} (firstLeft : mark ∉ a) (firstRight : mark ∉ c) :
    eqIgnoringCase (a ++ mark :: b) (c ++ mark :: d) = true ↔
      eqIgnoringCase a c = true ∧ eqIgnoringCase b d = true := by
  simp only [eqIgnoringCase_iff]
  have left := splitOnce_append mark (asciiLower a) (asciiLower b)
    (mt (mem_asciiLower_iff mark noLetter a).mp firstLeft)
  have right := splitOnce_append mark (asciiLower c) (asciiLower d)
    (mt (mem_asciiLower_iff mark noLetter c).mp firstRight)
  rw [asciiLower_cut noLetter, asciiLower_cut noLetter]
  constructor
  · intro same
    rw [same, right, Option.some_inj, Prod.mk.injEq] at left
    exact ⟨left.1.symm, left.2.symm⟩
  · rintro ⟨sameFirst, sameSecond⟩
    rw [sameFirst, sameSecond]

end Multipage.Text
