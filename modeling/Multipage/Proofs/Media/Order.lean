/-
# Multipage.Proofs.Media.Order -- the order of the ranges in a header, and of the types

The scan for the range that decides keeps the first of several that fit equally well.  Two ranges
that cover a declared type and fit it equally well are of one class, and then they have the same
names (`RangeClass.sameNames_of_relates`).  So in a header that names no range twice the deciding
range is the greatest, wherever it stands, and the elements may come in any order
(`bestMatch?_perm`).  A header that names a range twice is read from the left.

The scan for the chosen type keeps the first of several that are level.  A score does not depend on
the place of a type, so nothing is acceptable in one order when nothing is in another
(`unacceptable_perm`), and a type that scores above all others does so wherever it stands
(`OnlyGreatestAt.of_perm`).
-/
import Multipage.Proofs.Media.Precedence
import Multipage.Proofs.Media.Reading

namespace Multipage

set_option autoImplicit false

/-! ## Elements of different keys -/

section Scan

variable {α β : Type} [LinearOrder β] {key : α → β} {exceeds : α → α → Bool} {as bs : List α}

/-- When no two keys are equal, the first greatest element is the greatest, wherever it stands. -/
theorem firstGreatest_iff_greatest (distinct : as.Pairwise fun a b => key a ≠ key b) (a : α) :
    FirstGreatest key as a ↔ a ∈ as ∧ ∀ b ∈ as, key b ≤ key a := by
  constructor
  · intro found
    exact ⟨found.mem, fun b mem => found.le mem⟩
  · rintro ⟨mem, greatest⟩
    obtain ⟨before, after, rfl⟩ := List.append_of_mem mem
    refine ⟨before, after, rfl, ?_, ?_⟩
    · intro b early
      have le : key b ≤ key a := greatest b (List.mem_append_left _ early)
      have ne : key b ≠ key a :=
        (List.pairwise_append.mp distinct).2.2 b early a List.mem_cons_self
      exact lt_of_le_of_ne le ne
    · intro b late
      exact greatest b (List.mem_append_right _ (List.mem_cons_of_mem _ late))

/-- So the scan finds it in any order of the elements. -/
theorem firstGreatest_perm (byKey : ∀ a b, exceeds a b = true ↔ key b < key a)
    (distinct : as.Pairwise fun a b => key a ≠ key b) (perm : as.Perm bs) :
    firstGreatest exceeds as = firstGreatest exceeds bs := by
  have alsoDistinct : bs.Pairwise fun a b => key a ≠ key b :=
    perm.pairwise distinct fun ne => ne.symm
  apply Option.ext
  intro a
  rw [firstGreatest_eq_some_iff byKey, firstGreatest_eq_some_iff byKey,
    firstGreatest_iff_greatest distinct, firstGreatest_iff_greatest alsoDistinct]
  simp only [perm.mem_iff]

end Scan

/-! ## Ranges of different names -/

namespace MediaRange

/-- Type and subtype are the same in letters of any case, whatever the parameters are. -/
def SameNames (a b : MediaRange) : Prop := a.sameType b = true ∧ a.sameSubtype b = true

instance (a b : MediaRange) : Decidable (a.SameNames b) := inferInstanceAs (Decidable (_ ∧ _))

end MediaRange

/-- Two ranges that speak of a type in one way have the same names. -/
theorem RangeClass.sameNames_of_relates {c : RangeClass} {range other target : MediaRange}
    (related : c.relates range target = true) (otherRelated : c.relates other target = true) :
    range.SameNames other := by
  unfold MediaRange.SameNames
  cases c <;>
    simp only [relates, MediaRange.sameType, MediaRange.sameSubtype, Text.eqIgnoringCase_iff,
      Bool.and_eq_true, beq_iff_eq] at related otherRelated ⊢ <;>
    rw [related.1, related.2, otherRelated.1, otherRelated.2] <;>
    exact ⟨rfl, rfl⟩

section Declared

variable {t type subtype : Text} (halves : Halves t type subtype) {ranges others : List MediaRange}

include halves

/-- Two ranges of different names do not fit a declared type equally well. -/
theorem Halves.fitness_ne {range other : MediaRange}
    (covers : range.covers (.plain type subtype) = true)
    (otherCovers : other.covers (.plain type subtype) = true) (apart : ¬range.SameNames other) :
    range.fitness (.plain type subtype) ≠ other.fitness (.plain type subtype) := by
  obtain ⟨c, admits⟩ := (covers_plain_iff halves range).mp covers
  obtain ⟨d, otherAdmits⟩ := (covers_plain_iff halves other).mp otherCovers
  rw [fitness_of_admits halves admits, fitness_of_admits halves otherAdmits]
  intro level
  obtain rfl := (RangeClass.fitness_inj c d).mp level
  rw [halves.admits_eq] at admits otherAdmits
  exact apart (RangeClass.sameNames_of_relates admits otherAdmits)

/-- Ranges of different names decide about a declared type in any order. -/
theorem Halves.deciding?_perm (apart : ranges.Pairwise fun r s => ¬r.SameNames s)
    (perm : ranges.Perm others) :
    (MediaRange.plain type subtype).deciding? ranges =
      (MediaRange.plain type subtype).deciding? others := by
  have distinct :
      (ranges.filter fun range => range.covers (.plain type subtype)).Pairwise fun r s =>
        r.fitness (.plain type subtype) ≠ s.fitness (.plain type subtype) := by
    refine (apart.filter _).imp_of_mem ?_
    intro r s inFirst inSecond differ
    exact halves.fitness_ne (List.mem_filter.mp inFirst).2 (List.mem_filter.mp inSecond).2 differ
  rw [MediaRange.deciding?, MediaRange.deciding?]
  exact firstGreatest_perm (fun a b => decide_eq_true_iff) distinct (perm.filter _)

end Declared

theorem Score.of?_perm {t : Text} (declared : isMediaType t = true)
    {ranges others : List MediaRange} (apart : ranges.Pairwise fun r s => ¬r.SameNames s)
    (perm : ranges.Perm others) : Score.of? ranges t = Score.of? others t := by
  obtain ⟨type, subtype, halves⟩ := (isMediaType_iff t).mp declared
  rw [Score.of?, Score.of?, MediaRange.ofText?_of_halves halves, Option.bind_some,
    Option.bind_some, halves.deciding?_perm apart perm]

/-! ## The choice -/

/-- Headers by which every type has the same score choose the same. -/
theorem bestMatch?_congr {available : List Text} {accept other : Text}
    (same : ∀ t ∈ available, Score.of? (MediaRange.listOfAccept accept) t =
      Score.of? (MediaRange.listOfAccept other) t) :
    bestMatch? available accept = bestMatch? available other := by
  have types : acceptableTypes available accept = acceptableTypes available other := by
    apply List.filterMap_congr
    rintro ⟨t, index⟩ mem
    have here : t ∈ available := List.fst_mem_of_mem_zipIdx mem
    simp only [same t here]
  rw [bestMatch?, bestMatch?, types]

/-- **The order of the elements of a header does not matter, unless two of them name the same
range.**  Among declared types, elements without a comma that are joined by commas choose the same
place, or none, in every order, as long as no two that can be read have the same names.  A lone
star is read as two, and an element that cannot be read may stand anywhere. -/
theorem bestMatch?_perm {types elements reordered : List Text}
    (declared : ∀ t ∈ types, isMediaType t = true) (single : ∀ element ∈ elements, ',' ∉ element)
    (apart : (elements.filterMap MediaRange.ofText?).Pairwise fun r s => ¬r.SameNames s)
    (perm : elements.Perm reordered) :
    bestMatch? types (Text.join [','] elements) =
      bestMatch? types (Text.join [','] reordered) := by
  have alsoSingle : ∀ element ∈ reordered, ',' ∉ element := by
    intro element mem
    exact single element (perm.mem_iff.mpr mem)
  apply bestMatch?_congr
  intro t mem
  rw [MediaRange.listOfAccept_join_of_single single,
    MediaRange.listOfAccept_join_of_single alsoSingle]
  exact Score.of?_perm (declared t mem) apart (perm.filterMap _)

/-- A name, a star for the subtype, a lone star, and two elements that cannot be read: from the
left or from the right, the second type is chosen. -/
theorem bestMatch?_perm_reversed :
    let types : List Text := ["text/html".toList, "text/plain".toList]
    let elements : List Text :=
      ["Text/HTML;q=0".toList, " text/*;level=1;q=0.5".toList, "html".toList, "*;q=0.9 ".toList, []]
    bestMatch? types (Text.join [','] elements) = some 1 ∧
      bestMatch? types (Text.join [','] elements.reverse) = some 1 := by
  intro types elements
  have chosen : bestMatch? types (Text.join [','] elements) = some 1 := by decide +kernel
  have declared : ∀ t ∈ types, isMediaType t = true := by decide
  have single : ∀ element ∈ elements, ',' ∉ element := by decide
  have same := bestMatch?_perm declared single (by decide +kernel)
    (List.reverse_perm elements).symm
  exact ⟨chosen, same.symm.trans chosen⟩

/-- A range that is named twice is judged by the first of the two. -/
example :
    bestMatch? ["text/html".toList] "text/html;q=0,text/html".toList = none ∧
      bestMatch? ["text/html".toList] "text/html,text/html;q=0".toList = some 0 := by
  exact ⟨by decide +kernel, by decide +kernel⟩

/-! ## The order of the types -/

/-- The type at `index` is acceptable, and every other acceptable type scores less. -/
def OnlyGreatestAt (available : List Text) (accept : Text) (index : Nat) : Prop :=
  ∃ score, AcceptableAt available accept index score ∧
    ∀ j other, AcceptableAt available accept j other → j ≠ index → other < score

/-- A place has one score. -/
theorem AcceptableAt.unique {available : List Text} {accept : Text} {index : Nat}
    {score other : Score} (acceptable : AcceptableAt available accept index score)
    (otherAcceptable : AcceptableAt available accept index other) : score = other := by
  rw [acceptableAt_iff_score] at acceptable otherAcceptable
  obtain ⟨t, here, scored⟩ := acceptable
  obtain ⟨u, there, otherScored⟩ := otherAcceptable
  obtain rfl := Option.some.inj (here.symm.trans there)
  exact Option.some.inj (scored.symm.trans otherScored)

theorem OnlyGreatestAt.chosenAt {available : List Text} {accept : Text} {index : Nat}
    (only : OnlyGreatestAt available accept index) : ChosenAt available accept index := by
  obtain ⟨score, acceptable, below⟩ := only
  refine ⟨score, acceptable, ?_⟩
  intro j other otherAcceptable
  by_cases same : j = index
  · subst same
    obtain rfl := otherAcceptable.unique acceptable
    exact ⟨le_refl _, fun early => absurd early (lt_irrefl _)⟩
  · have lower := below j other otherAcceptable same
    exact ⟨lower.le, fun _ => lower⟩

theorem onlyGreatestAt_iff (available : List Text) (accept : Text) (index : Nat) :
    OnlyGreatestAt available accept index ↔
      ∃ entry ∈ acceptableTypes available accept, entry.1 = index ∧
        ∀ other ∈ acceptableTypes available accept, other.1 ≠ index → other.2 < entry.2 := by
  simp only [OnlyGreatestAt, Prod.exists, Prod.forall, mem_acceptableTypes]
  constructor
  · rintro ⟨score, acceptable, below⟩
    exact ⟨index, score, acceptable, rfl, below⟩
  · rintro ⟨_, score, acceptable, rfl, below⟩
    exact ⟨score, acceptable, below⟩

instance (available : List Text) (accept : Text) (index : Nat) :
    Decidable (OnlyGreatestAt available accept index) :=
  decidable_of_iff _ (onlyGreatestAt_iff available accept index).symm

theorem OnlyGreatestAt.exists_type {available : List Text} {accept : Text} {index : Nat}
    (only : OnlyGreatestAt available accept index) : ∃ t, available[index]? = some t := by
  obtain ⟨score, ⟨t, -, -, here, -⟩, -⟩ := only
  exact ⟨t, here⟩

/-- That nothing is acceptable does not speak of places. -/
theorem unacceptable_iff (available : List Text) (accept : Text) :
    (∀ index score, ¬AcceptableAt available accept index score) ↔
      ∀ t ∈ available, Score.of? (MediaRange.listOfAccept accept) t = none := by
  simp only [acceptableAt_iff_score]
  constructor
  · intro unacceptable t mem
    rw [Option.eq_none_iff_forall_ne_some]
    intro score scored
    obtain ⟨index, here⟩ := List.mem_iff_getElem?.mp mem
    exact unacceptable index score ⟨t, here, scored⟩
  · rintro unscored index score ⟨t, here, scored⟩
    rw [unscored t (List.mem_of_getElem? here)] at scored
    simp at scored

section Types

variable {types others : List Text} (perm : types.Perm others) {accept : Text}

include perm

/-- Nothing is acceptable in one order when nothing is in the other. -/
theorem unacceptable_perm :
    (∀ index score, ¬AcceptableAt types accept index score) ↔
      ∀ index score, ¬AcceptableAt others accept index score := by
  simp only [unacceptable_iff, perm.mem_iff]

/-- The type of the one greatest score has it wherever it stands. -/
theorem OnlyGreatestAt.of_perm (distinct : types.Nodup) {index place : Nat} {t : Text}
    (only : OnlyGreatestAt types accept index) (here : types[index]? = some t)
    (there : others[place]? = some t) : OnlyGreatestAt others accept place := by
  obtain ⟨score, acceptable, below⟩ := only
  simp only [acceptableAt_iff_score] at acceptable below
  obtain ⟨t', here', scored⟩ := acceptable
  obtain rfl := Option.some.inj (here.symm.trans here')
  refine ⟨score, (acceptableAt_iff_score ..).mpr ⟨t, there, scored⟩, ?_⟩
  intro j other acceptable elsewhere
  obtain ⟨u, placed, otherScored⟩ := (acceptableAt_iff_score ..).mp acceptable
  obtain ⟨i, found⟩ := List.mem_iff_getElem?.mp
    (perm.mem_iff.mpr (List.mem_of_getElem? placed))
  refine below i other ⟨u, found, otherScored⟩ ?_
  rintro rfl
  obtain rfl := Option.some.inj (here.symm.trans found)
  have inOthers : j < others.length := (List.getElem?_eq_some_iff.mp placed).1
  exact elsewhere ((List.getElem?_inj inOthers (perm.nodup distinct)).mp (placed.trans there.symm))

end Types
end Multipage
