/-
# Multipage.Proofs.Media.Choice -- the earliest of the greatest, twice over

Two scans choose: among the ranges that cover a type (`MediaRange.deciding?`) and among the
acceptable types (`bestMatch?`).  Both keep what they hold until something exceeds it, so
both find the element that everything before it is below and nothing after it is above
(`FirstGreatest`).

* `firstGreatest_eq_some_iff`: a scan that compares by a key in a linear order finds exactly
  the first greatest element;
* `Quality.compare?_number`: qualities are numbers, so the order of the 32-bit format is total
  on them and is the order of their units;
* `MediaRange.deciding?_eq_some_iff`: what the inner scan finds is the range that `Decides`;
* `bestMatch?_eq_some_iff` and `bestMatch?_eq_none_iff`: what the outer scan finds, by the
  places of the acceptable types.
-/
import Multipage.Media.Negotiation
import Mathlib.Data.Prod.Lex
import Mathlib.Order.Lattice

namespace Multipage

set_option autoImplicit false

/-! ## A scan that keeps what it holds until something exceeds it -/

/-- `a` stands in `as`, all before it are below it, and none after it is above it. -/
def FirstGreatest {α β : Type} [LinearOrder β] (key : α → β) (as : List α) (a : α) : Prop :=
  ∃ before after, as = before ++ a :: after ∧
    (∀ b ∈ before, key b < key a) ∧ ∀ b ∈ after, key b ≤ key a

section Scan

variable {α β : Type} [LinearOrder β] {key : α → β} {exceeds : α → α → Bool}

theorem FirstGreatest.mem {as : List α} {a : α} (found : FirstGreatest key as a) : a ∈ as := by
  obtain ⟨before, after, rfl, -, -⟩ := found
  simp

theorem FirstGreatest.le {as : List α} {a b : α} (found : FirstGreatest key as a)
    (mem : b ∈ as) : key b ≤ key a := by
  obtain ⟨before, after, rfl, below, notAbove⟩ := found
  rcases List.mem_append.mp mem with early | late
  · exact (below b early).le
  · rcases List.mem_cons.mp late with rfl | late
    · exact le_refl _
    · exact notAbove b late

/-- One of several elements is the first greatest. -/
theorem exists_firstGreatest (key : α → β) :
    ∀ (as : List α), as ≠ [] → ∃ a, FirstGreatest key as a
  | [], nonempty => absurd rfl nonempty
  | [a], _ => ⟨a, [], [], rfl, by simp, by simp⟩
  | first :: second :: rest, _ => by
      obtain ⟨a, found⟩ := exists_firstGreatest key (second :: rest) (by simp)
      by_cases lower : key first < key a
      · obtain ⟨before, after, cut, below, notAbove⟩ := found
        refine ⟨a, first :: before, after, by simp [cut], ?_, notAbove⟩
        intro b mem
        rcases List.mem_cons.mp mem with rfl | mem
        · exact lower
        · exact below b mem
      · refine ⟨first, [], second :: rest, rfl, by simp, ?_⟩
        exact fun b mem => (found.le mem).trans (not_lt.mp lower)

theorem foldl_below (byKey : ∀ a b, exceeds a b = true ↔ key b < key a) {a : α} :
    ∀ (before : List α) (held : α), key held < key a → (∀ b ∈ before, key b < key a) →
      key (before.foldl (fun best b => if exceeds b best then b else best) held) < key a
  | [], held, lower, _ => lower
  | b :: rest, held, lower, below => by
      have belowRest : ∀ c ∈ rest, key c < key a := fun c mem => below c (by simp [mem])
      by_cases taken : exceeds b held = true
      · simpa [taken] using foldl_below byKey rest b (below b (by simp)) belowRest
      · simpa [taken] using foldl_below byKey rest held lower belowRest

theorem foldl_keeps (byKey : ∀ a b, exceeds a b = true ↔ key b < key a) {a : α} :
    ∀ (after : List α), (∀ b ∈ after, key b ≤ key a) →
      after.foldl (fun best b => if exceeds b best then b else best) a = a
  | [], _ => rfl
  | b :: rest, notAbove => by
      have kept : ¬ exceeds b a = true := by
        rw [byKey]
        exact not_lt.mpr (notAbove b (by simp))
      simpa [kept] using foldl_keeps byKey rest (fun c mem => notAbove c (by simp [mem]))

theorem FirstGreatest.found (byKey : ∀ a b, exceeds a b = true ↔ key b < key a)
    {as : List α} {a : α} (first : FirstGreatest key as a) :
    firstGreatest exceeds as = some a := by
  obtain ⟨before, after, rfl, below, notAbove⟩ := first
  cases before with
  | nil => simp [firstGreatest, foldl_keeps byKey after notAbove]
  | cons b rest =>
      have lower := foldl_below byKey rest b (below b (by simp))
        (fun c mem => below c (by simp [mem]))
      have taken := (byKey _ _).mpr lower
      simp [firstGreatest, taken, foldl_keeps byKey after notAbove]

/-- The scan finds the first greatest element and nothing else. -/
theorem firstGreatest_eq_some_iff (byKey : ∀ a b, exceeds a b = true ↔ key b < key a)
    (as : List α) (a : α) :
    firstGreatest exceeds as = some a ↔ FirstGreatest key as a := by
  constructor
  · intro found
    cases as with
    | nil => simp [firstGreatest] at found
    | cons first rest =>
        obtain ⟨b, greatest⟩ := exists_firstGreatest key (first :: rest) (by simp)
        have same : b = a := Option.some.inj ((greatest.found byKey).symm.trans found)
        exact same ▸ greatest
  · exact fun greatest => greatest.found byKey

@[simp] theorem firstGreatest_eq_none_iff (as : List α) :
    firstGreatest exceeds as = none ↔ as = [] := by
  cases as <;> simp [firstGreatest]

/-- A scan that looks at a picture of the elements only finds the picture of what it finds. -/
theorem firstGreatest_map {γ : Type} (f : α → γ) {other : γ → γ → Bool}
    (respects : ∀ a b, other (f a) (f b) = exceeds a b) (as : List α) :
    firstGreatest other (as.map f) = (firstGreatest exceeds as).map f := by
  cases as with
  | nil => rfl
  | cons first rest =>
      rw [List.map_cons, firstGreatest, firstGreatest, Option.map_some, List.foldl_map,
        List.foldl_hom f]
      intro held b
      rw [respects, apply_ite f]

/-- The first greatest among some of the elements, seen from all of them. -/
theorem firstGreatest_filter_iff (p : α → Bool) (as : List α) (a : α) :
    FirstGreatest key (as.filter p) a ↔
      ∃ before after, as = before ++ a :: after ∧ p a = true ∧
        (∀ b ∈ before, p b = true → key b < key a) ∧
        ∀ b ∈ after, p b = true → key b ≤ key a := by
  constructor
  · rintro ⟨left, right, cut, below, notAbove⟩
    obtain ⟨before, rest, rfl, rfl, kept⟩ := List.filter_eq_append_iff.mp cut
    obtain ⟨skipped, after, rfl, dropped, admitted, rfl⟩ := List.filter_eq_cons_iff.mp kept
    refine ⟨before ++ skipped, after, by simp, admitted, ?_, ?_⟩
    · intro b mem here
      rcases List.mem_append.mp mem with mem | mem
      · exact below b (List.mem_filter.mpr ⟨mem, here⟩)
      · exact absurd here (dropped b mem)
    · exact fun b mem here => notAbove b (List.mem_filter.mpr ⟨mem, here⟩)
  · rintro ⟨before, after, rfl, admitted, below, notAbove⟩
    refine ⟨before.filter p, after.filter p, by simp [admitted], ?_, ?_⟩
    · exact fun b mem => below b (List.mem_filter.mp mem).1 (List.mem_filter.mp mem).2
    · exact fun b mem => notAbove b (List.mem_filter.mp mem).1 (List.mem_filter.mp mem).2

end Scan

/-! ## Qualities are numbers from zero to one -/

namespace Binary

/-- A number that is neither below zero nor above one.  A NaN compares with neither. -/
def isFraction (b : Binary) : Bool :=
  (compare? (.finite false 0) b).any Ordering.isLE &&
    (compare? b (.finite false Quality.one.units)).any Ordering.isLE

theorem any_isLE_compare? (s t : Bool) (u v : Nat) :
    (compare? (.finite s u) (.finite t v)).any Ordering.isLE =
      decide (signed s u ≤ signed t v) := by
  rw [Bool.eq_iff_iff, decide_eq_true_iff]
  exact Std.isLE_compare

theorem isFraction_finite (s : Bool) (u : Nat) :
    isFraction (.finite s u) = true ↔ 0 ≤ signed s u ∧ signed s u ≤ Quality.one.units := by
  rw [isFraction, any_isLE_compare?, any_isLE_compare?, Bool.and_eq_true, decide_eq_true_iff,
    decide_eq_true_iff]
  rfl

theorem compare?_eq_eq_iff (s t : Bool) (u v : Nat) :
    compare? (.finite s u) (.finite t v) = some .eq ↔ signed s u = signed t v := by
  rw [compare?, Option.some_inj, compare_eq_iff_eq]

end Binary

namespace Quality

/-- The 32-bit number that a quality is. -/
def number (q : Quality) : Binary := .finite false q.units

theorem units_injective : Function.Injective units := by
  rintro ⟨u, _⟩ ⟨v, _⟩ same
  simpa using same

instance : LinearOrder Quality := LinearOrder.lift' units units_injective

theorem lt_iff_units (a b : Quality) : a < b ↔ a.units < b.units := Iff.rfl

/-- Two qualities always compare as numbers, and they do so in their order. -/
theorem compare?_number (a b : Quality) :
    Binary.compare? a.number b.number = some (compare a b) := by
  have units : compare (a.units : Int) (b.units : Int) = compare a.units b.units := by
    simp only [compare, compareOfLessAndEq, Int.ofNat_lt, Int.ofNat_inj]
  exact congrArg some units

theorem isFraction_number (q : Quality) : q.number.isFraction = true := by
  have bound : q.units ≤ Quality.one.units := q.le_one
  rw [number, Binary.isFraction_finite]
  exact ⟨Int.natCast_nonneg _, Int.ofNat_le.mpr bound⟩

/-- A number is a quality exactly when it lies between zero and one, and then it is that
number, both zeros being one. -/
theorem ofBinary?_eq_some_iff (b : Binary) (q : Quality) :
    ofBinary? b = some q ↔
      b.isFraction = true ∧ Binary.compare? b q.number = some .eq := by
  cases b with
  | nan => simp [ofBinary?, Binary.isFraction, Binary.compare?]
  | infinite negative => cases negative <;> simp [ofBinary?, Binary.isFraction, Binary.compare?]
  | finite negative u =>
      rw [Binary.isFraction_finite, number, Binary.compare?_eq_eq_iff, ofBinary?]
      have bound : q.units ≤ Quality.one.units := q.le_one
      constructor
      · intro made
        split at made
        · rename_i fits
          have fits : u ≤ Quality.one.units := fits
          split at made
          · simp at made
          · rename_i unsigned
            simp only [Option.some.injEq] at made
            subst made
            cases negative with
            | false => simpa [Binary.signed] using fits
            | true => simp [Binary.signed, show u = 0 by simpa using unsigned]
        · simp at made
      · rintro ⟨⟨nonneg, fits⟩, same⟩
        have value : u = q.units ∧ ¬ (negative = true ∧ u ≠ 0) := by
          cases negative <;> simp [Binary.signed] at * <;> omega
        obtain ⟨rfl, unsigned⟩ := value
        rw [dif_pos q.le_one, if_neg unsigned]

end Quality

/-! ## Scores -/

namespace Score

theorem toLex_injective :
    Function.Injective fun score : Score => toLex (score.fitness, score.quality) := by
  rintro ⟨f, q⟩ ⟨g, r⟩ same
  simpa using same

/-- Fitness before quality. -/
instance : LinearOrder Score := LinearOrder.lift' _ toLex_injective

theorem lt_iff (a b : Score) :
    a < b ↔ a.fitness < b.fitness ∨ a.fitness = b.fitness ∧ a.quality < b.quality :=
  Prod.Lex.toLex_lt_toLex

theorem le_iff (a b : Score) :
    a ≤ b ↔ a.fitness < b.fitness ∨ a.fitness = b.fitness ∧ a.quality ≤ b.quality :=
  Prod.Lex.toLex_le_toLex

theorem exceeds_iff (a b : Score) : a.exceeds b = true ↔ b < a := by
  rw [lt_iff, Quality.lt_iff_units, exceeds, Bool.or_eq_true, Bool.and_eq_true,
    decide_eq_true_iff, decide_eq_true_iff, beq_iff_eq, eq_comm (a := a.fitness)]

end Score

/-! ## The range that decides -/

/-- `range` covers `target`; of the ranges that do, those before it fit less and those after
it fit no more. -/
def MediaRange.Decides (ranges : List MediaRange) (target range : MediaRange) : Prop :=
  ∃ before after, ranges = before ++ range :: after ∧ range.covers target = true ∧
    (∀ r ∈ before, r.covers target = true → r.fitness target < range.fitness target) ∧
    ∀ r ∈ after, r.covers target = true → r.fitness target ≤ range.fitness target

namespace MediaRange

theorem deciding?_eq_some_iff (ranges : List MediaRange) (target range : MediaRange) :
    target.deciding? ranges = some range ↔ Decides ranges target range := by
  rw [deciding?, firstGreatest_eq_some_iff (fun a b => decide_eq_true_iff),
    firstGreatest_filter_iff]
  rfl

end MediaRange

/-- A type is scored when it can be read, some range decides about it, and the quality of
that range is above zero. -/
theorem Score.of?_eq_some_iff (ranges : List MediaRange) (t : Text) (score : Score) :
    Score.of? ranges t = some score ↔
      ∃ target range, MediaRange.ofText? t = some target ∧
        MediaRange.Decides ranges target range ∧ 0 < range.quality.units ∧
        score = ⟨range.fitness target, range.quality⟩ := by
  simp only [Score.of?, Option.bind_eq_some_iff, MediaRange.deciding?_eq_some_iff,
    Quality.isZero, Option.ite_none_left_eq_some, Option.some_inj, beq_iff_eq,
    Nat.pos_iff_ne_zero]
  constructor
  · rintro ⟨target, read, range, decides, positive, rfl⟩
    exact ⟨target, range, read, decides, positive, rfl⟩
  · rintro ⟨target, range, read, decides, positive, rfl⟩
    exact ⟨target, read, range, decides, positive, rfl⟩

/-! ## The type that is chosen -/

/-- The available type at `index` is acceptable, and `score` is its score. -/
def AcceptableAt (available : List Text) (accept : Text) (index : Nat) (score : Score) : Prop :=
  ∃ t target range, available[index]? = some t ∧ MediaRange.ofText? t = some target ∧
    MediaRange.Decides (MediaRange.listOfAccept accept) target range ∧
    0 < range.quality.units ∧ score = ⟨range.fitness target, range.quality⟩

/-- The type at `index` is acceptable, no other scores higher, and none before it as high. -/
def ChosenAt (available : List Text) (accept : Text) (index : Nat) : Prop :=
  ∃ score, AcceptableAt available accept index score ∧
    ∀ j other, AcceptableAt available accept j other →
      other ≤ score ∧ (j < index → other < score)

theorem mem_acceptableTypes (available : List Text) (accept : Text) (index : Nat)
    (score : Score) :
    (index, score) ∈ acceptableTypes available accept ↔
      AcceptableAt available accept index score := by
  simp only [acceptableTypes, List.mem_filterMap, Option.map_eq_some_iff, Prod.mk.injEq,
    Prod.exists, List.mem_zipIdx_iff_getElem?, Score.of?_eq_some_iff]
  constructor
  · rintro ⟨t, _, here, _, ⟨target, range, read, decides, positive, rfl⟩, rfl, rfl⟩
    exact ⟨t, target, range, here, read, decides, positive, rfl⟩
  · rintro ⟨t, target, range, here, read, decides, positive, rfl⟩
    exact ⟨t, index, here, _, ⟨target, range, read, decides, positive, rfl⟩, rfl, rfl⟩

/-- A type is acceptable when it has a score. -/
theorem acceptableAt_iff_score (available : List Text) (accept : Text) (index : Nat)
    (score : Score) :
    AcceptableAt available accept index score ↔
      ∃ t, available[index]? = some t ∧
        Score.of? (MediaRange.listOfAccept accept) t = some score := by
  simp only [AcceptableAt, Score.of?_eq_some_iff, exists_and_left]

/-- The acceptable types are listed in the order of their places. -/
theorem acceptableTypes_pairwise (available : List Text) (accept : Text) :
    (acceptableTypes available accept).Pairwise fun a b => a.1 < b.1 := by
  have places : available.zipIdx.Pairwise fun a b => a.2 < b.2 := by
    rw [← List.pairwise_map (f := Prod.snd), List.zipIdx_map_snd]
    exact List.pairwise_lt_range'
  rw [acceptableTypes, List.pairwise_filterMap]
  refine places.imp ?_
  intro a b lower x hx y hy
  obtain ⟨_, _, rfl⟩ := Option.map_eq_some_iff.mp hx
  obtain ⟨_, _, rfl⟩ := Option.map_eq_some_iff.mp hy
  exact lower

theorem bestMatch?_eq_none_iff (available : List Text) (accept : Text) :
    bestMatch? available accept = none ↔
      ∀ index score, ¬ AcceptableAt available accept index score := by
  rw [bestMatch?, Option.map_eq_none_iff, firstGreatest_eq_none_iff,
    List.eq_nil_iff_forall_not_mem]
  simp only [Prod.forall, mem_acceptableTypes]

/-- The first greatest of the acceptable types is the one that is chosen by its place. -/
theorem chosenAt_iff (available : List Text) (accept : Text) (index : Nat) :
    ChosenAt available accept index ↔
      ∃ score, FirstGreatest Prod.snd (acceptableTypes available accept) (index, score) := by
  have ordered := acceptableTypes_pairwise available accept
  constructor
  · rintro ⟨score, acceptable, best⟩
    obtain ⟨before, after, cut⟩ :=
      List.append_of_mem ((mem_acceptableTypes ..).mpr acceptable)
    rw [cut, List.pairwise_append] at ordered
    refine ⟨score, before, after, cut, ?_, ?_⟩
    · intro b mem
      have early : b.1 < index := ordered.2.2 b mem (index, score) (by simp)
      exact (best b.1 b.2 ((mem_acceptableTypes ..).mp (by simp [cut, mem]))).2 early
    · intro b mem
      exact (best b.1 b.2 ((mem_acceptableTypes ..).mp (by simp [cut, mem]))).1
  · rintro ⟨score, found⟩
    refine ⟨score, (mem_acceptableTypes ..).mp found.mem, ?_⟩
    intro j other acceptable
    have mem := (mem_acceptableTypes ..).mpr acceptable
    refine ⟨found.le mem, ?_⟩
    intro early
    obtain ⟨before, after, cut, below, -⟩ := found
    rw [cut] at mem ordered
    rcases List.mem_append.mp mem with mem | mem
    · exact below _ mem
    · -- what does not stand before the chosen type has no smaller place
      have late := List.pairwise_cons.mp (List.pairwise_append.mp ordered).2.1
      rcases List.mem_cons.mp mem with same | mem
      · simp only [Prod.mk.injEq] at same
        omega
      · have := late.1 _ mem
        simp only at this
        omega

theorem bestMatch?_eq_some_iff (available : List Text) (accept : Text) (index : Nat) :
    bestMatch? available accept = some index ↔ ChosenAt available accept index := by
  have byScore : ∀ a b : Nat × Score, a.2.exceeds b.2 = true ↔ b.2 < a.2 :=
    fun a b => Score.exceeds_iff a.2 b.2
  rw [chosenAt_iff, bestMatch?, Option.map_eq_some_iff]
  simp only [firstGreatest_eq_some_iff byScore]
  constructor
  · rintro ⟨⟨_, score⟩, found, rfl⟩
    exact ⟨score, found⟩
  · rintro ⟨score, found⟩
    exact ⟨_, found, rfl⟩

theorem negotiate_eq_ok_iff (available : List Text) (accept : Text) (index : Nat) :
    negotiate available (some accept) = .ok index ↔ ChosenAt available accept index := by
  rw [← bestMatch?_eq_some_iff]
  cases choice : bestMatch? available accept <;> simp [negotiate, choice]

theorem negotiate_eq_error_iff (available : List Text) (accept : Text) (error : NotAcceptable) :
    negotiate available (some accept) = .error error ↔
      error = ⟨available⟩ ∧ ∀ index score, ¬ AcceptableAt available accept index score := by
  rw [← bestMatch?_eq_none_iff]
  cases choice : bestMatch? available accept <;> simp [negotiate, choice, eq_comm]

/-- **The choice is the first lexicographic maximum of fitness and quality.**  A parameter
value counts as a quality exactly when it spells a number from zero to one, so every range has
such a number, any two of them compare, and scores are in a linear order.  Nothing is chosen
exactly when nothing is acceptable; otherwise the choice is the one place that no acceptable
type scores above and no earlier one scores level with. -/
theorem bestMatch?_first_greatest (available : List Text) (accept : Text) :
    (∀ value q, Quality.ofText? value = some q ↔
      ∃ b, Binary.ofText? .single value = some b ∧ b.isFraction = true ∧
        Binary.compare? b q.number = some .eq) ∧
    (∀ range ∈ MediaRange.listOfAccept accept, range.quality.number.isFraction = true ∧
      ∀ other ∈ MediaRange.listOfAccept accept,
        Binary.compare? range.quality.number other.quality.number =
          some (compare range.quality other.quality)) ∧
    (bestMatch? available accept = none ↔
      ∀ index score, ¬ AcceptableAt available accept index score) ∧
    (∀ index, bestMatch? available accept = some index ↔ ChosenAt available accept index) ∧
    ((∃ index score, AcceptableAt available accept index score) ↔
      ∃! index, ChosenAt available accept index) := by
  refine ⟨fun value q => ?_, fun range _ => ⟨range.quality.isFraction_number, fun other _ => ?_⟩,
    bestMatch?_eq_none_iff available accept, bestMatch?_eq_some_iff available accept, ?_⟩
  · simp only [Quality.ofText?, Option.bind_eq_some_iff, Quality.ofBinary?_eq_some_iff]
  · exact Quality.compare?_number _ _
  · constructor
    · rintro ⟨index, score, acceptable⟩
      cases chosen : bestMatch? available accept with
      | none => exact absurd acceptable ((bestMatch?_eq_none_iff ..).mp chosen index score)
      | some best =>
          refine ⟨best, (bestMatch?_eq_some_iff ..).mp chosen, fun other otherChosen => ?_⟩
          have found := (bestMatch?_eq_some_iff ..).mpr otherChosen
          exact Option.some.inj (found.symm.trans chosen)
    · rintro ⟨index, ⟨score, acceptable, -⟩, -⟩
      exact ⟨index, score, acceptable⟩

/-- One type is refused and two are level: the earlier of the two is chosen. -/
theorem bestMatch?_first_greatest_level :
    let available : List Text := ["text/csv".toList, "text/plain".toList, "text/html".toList]
    let accept : Text := "text/csv;q=0, text/*;q=0.5, */*"
    ChosenAt available accept 1 ∧
      ∀ range ∈ MediaRange.listOfAccept accept, range.quality.number.isFraction = true := by
  intro available accept
  obtain ⟨-, fractions, -, chosen, -⟩ := bestMatch?_first_greatest available accept
  exact ⟨(chosen 1).mp (by decide +kernel), fun range mem => (fractions range mem).1⟩

end Multipage
