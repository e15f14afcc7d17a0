/-
# Multipage.Proofs.Media.RangeClass -- the ways in which a range can speak of a type

A range that covers a type without stars does so in one of four ways: it names the type, it has a
star for the subtype, a star for the type, or two stars (`MediaRange.covers_iff_relates`).  Its
fitness is the number of its class and one more for each parameter that it repeats
(`MediaRange.fitness_of_relates`), and the more specific class has the greater number.
-/
import Multipage.Proofs.Media.Choice
import Multipage.Proofs.Text.Case

namespace Multipage

set_option autoImplicit false

/-- The ways in which a range can speak of a media type. -/
inductive RangeClass where
  /-- Both halves are stars. -/
  | anything
  /-- The type is a star, the subtype is named. -/
  | anyType
  /-- The type is named, the subtype is a star. -/
  | anySubtype
  /-- Both halves are named. -/
  | named
  deriving DecidableEq

namespace RangeClass

/-- How specific a class is. -/
def rank : RangeClass → Nat
  | .anything => 0
  | .anyType => 1
  | .anySubtype => 2
  | .named => 3

theorem rank_injective : Function.Injective rank := by
  intro a b same
  cases a <;> cases b <;> simp [rank] at same ⊢

/-- The more specific class is the greater one. -/
instance : LinearOrder RangeClass := LinearOrder.lift' rank rank_injective

/-- The fitness of a range of this class for a type without parameters. -/
def fitness : RangeClass → Nat
  | .anything => 0
  | .anyType => 10
  | .anySubtype => 100
  | .named => 110

theorem fitness_lt_iff (a b : RangeClass) : a.fitness < b.fitness ↔ a < b := by
  change _ ↔ a.rank < b.rank
  cases a <;> cases b <;> decide

theorem fitness_le_iff (a b : RangeClass) : a.fitness ≤ b.fitness ↔ a ≤ b := by
  rw [← not_lt, ← not_lt, fitness_lt_iff]

theorem fitness_inj (a b : RangeClass) : a.fitness = b.fitness ↔ a = b := by
  rw [le_antisymm_iff, fitness_le_iff, fitness_le_iff, ← le_antisymm_iff]

/-- Two classes are ten or more apart. -/
theorem fitness_add_ten_le {c d : RangeClass} (lower : d < c) : d.fitness + 10 ≤ c.fitness := by
  have rank : d.rank < c.rank := lower
  cases c <;> cases d <;> simp [RangeClass.rank, RangeClass.fitness] at rank ⊢

/-- Whether `range` speaks of `target` in this way, letters of any case being equal.  Parameters
of either do not count. -/
def relates (c : RangeClass) (range target : MediaRange) : Bool :=
  match c with
  | .anything => range.type == ['*'] && range.subtype == ['*']
  | .anyType => range.type == ['*'] && range.sameSubtype target
  | .anySubtype => range.sameType target && range.subtype == ['*']
  | .named => range.sameType target && range.sameSubtype target

end RangeClass

namespace MediaRange

/-- Neither half is a star. -/
structure Starless (target : MediaRange) : Prop where
  type : target.type ≠ ['*']
  subtype : target.subtype ≠ ['*']

/-- How many parameters of `target` the range repeats. -/
def repeated (range target : MediaRange) : Nat :=
  target.parameters.countP fun p => range.parameters.contains p

theorem repeated_le (range target : MediaRange) :
    range.repeated target ≤ target.parameters.length :=
  List.countP_le_length

/-- No range that covers the type fits it better than the one that decides. -/
theorem Decides.fitness_le {ranges : List MediaRange} {target range other : MediaRange}
    (decides : Decides ranges target range) (mem : other ∈ ranges)
    (covers : other.covers target = true) : other.fitness target ≤ range.fitness target := by
  obtain ⟨before, after, rfl, -, below, notAbove⟩ := decides
  rcases List.mem_append.mp mem with early | late
  · exact (below other early covers).le
  · rcases List.mem_cons.mp late with rfl | late
    · exact le_refl _
    · exact notAbove other late covers

section Starless

variable {target : MediaRange} (starless : target.Starless)

include starless

theorem not_sameType_star {range : MediaRange} (star : range.type = ['*']) :
    range.sameType target = false := by
  rw [sameType, star, Bool.eq_false_iff]
  exact mt (Text.eqIgnoringCase_star_iff target.type).mp starless.type

theorem not_sameSubtype_star {range : MediaRange} (star : range.subtype = ['*']) :
    range.sameSubtype target = false := by
  rw [sameSubtype, star, Bool.eq_false_iff]
  exact mt (Text.eqIgnoringCase_star_iff target.subtype).mp starless.subtype

/-- A range covers the type when it speaks of it in some class. -/
theorem covers_iff_relates (range : MediaRange) :
    range.covers target = true ↔ ∃ c : RangeClass, c.relates range target = true := by
  have noType : (target.type == ['*']) = false := beq_eq_false_iff_ne.mpr starless.type
  have noSubtype : (target.subtype == ['*']) = false := beq_eq_false_iff_ne.mpr starless.subtype
  rw [covers, noType, noSubtype, Bool.or_false, Bool.or_false, Bool.and_eq_true, Bool.or_eq_true,
    Bool.or_eq_true, beq_iff_eq, beq_iff_eq]
  constructor
  · rintro ⟨typeSame | typeStar, subtypeSame | subtypeStar⟩
    · exact ⟨.named, by simp [RangeClass.relates, *]⟩
    · exact ⟨.anySubtype, by simp [RangeClass.relates, *]⟩
    · exact ⟨.anyType, by simp [RangeClass.relates, *]⟩
    · exact ⟨.anything, by simp [RangeClass.relates, *]⟩
  · rintro ⟨c, related⟩
    cases c <;> simp [RangeClass.relates] at related <;> simp [related]

/-- The fitness of a range is that of its class and of the parameters that it repeats. -/
theorem fitness_of_relates {range : MediaRange} {c : RangeClass}
    (related : c.relates range target = true) :
    range.fitness target = c.fitness + range.repeated target := by
  cases c <;> simp only [RangeClass.relates, Bool.and_eq_true, beq_iff_eq] at related <;>
    obtain ⟨typeFits, subtypeFits⟩ := related
  · rw [fitness, not_sameType_star starless typeFits, not_sameSubtype_star starless subtypeFits]
    rfl
  · rw [fitness, not_sameType_star starless typeFits, subtypeFits]
    rfl
  · rw [fitness, not_sameSubtype_star starless subtypeFits, typeFits]
    rfl
  · rw [fitness, typeFits, subtypeFits]
    rfl

end Starless
end MediaRange
end Multipage
