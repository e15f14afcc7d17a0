/-
# Multipage.Proofs.Media.Precedence -- the classes behind the numbers

A declared media type has no parameters and no star, so a range that covers it admits it in one
of the four classes (`RangeClass`), and its fitness is the number of that class
(`fitness_of_admits`), which is greater for the more specific class.  So the choice by scores is a
choice by classes:

* `decides_iff_judgedBy`: the range that decides is the first of the most specific class that
  occurs for the type;
* `acceptableAt_iff`: a type is acceptable when the range that judges it has a quality above
  zero;
* `chosenAt_iff_preferredAt`: the chosen type is the one with the most specific class, then
  the highest quality, then the first place.
-/
import Multipage.Proofs.Media.Declared
import Multipage.Proofs.Media.RangeClass
import Mathlib.Data.Nat.Find

namespace Multipage

set_option autoImplicit false

namespace RangeClass

/-- Whether `range` speaks of the media type `t` in this way, letters of any case being equal.
Parameters of the range do not count. -/
def admits (c : RangeClass) (range : MediaRange) (t : Text) : Bool :=
  match Text.splitOnce '/' t with
  | none => false
  | some (type, subtype) =>
      match c with
      | .anything => range.type == ['*'] && range.subtype == ['*']
      | .anyType => range.type == ['*'] && Text.eqIgnoringCase range.subtype subtype
      | .anySubtype => Text.eqIgnoringCase range.type type && range.subtype == ['*']
      | .named => Text.eqIgnoringCase range.type type && Text.eqIgnoringCase range.subtype subtype

/-- The score of a type that a range of this class judges. -/
def score (c : RangeClass) (q : Quality) : Score := ⟨c.fitness, q⟩

theorem score_le_iff (c d : RangeClass) (q r : Quality) :
    d.score r ≤ c.score q ↔ d < c ∨ d = c ∧ r ≤ q := by
  rw [Score.le_iff, score, score, fitness_lt_iff, fitness_inj]

theorem score_lt_iff (c d : RangeClass) (q r : Quality) :
    d.score r < c.score q ↔ d < c ∨ d = c ∧ r < q := by
  rw [Score.lt_iff, score, score, fitness_lt_iff, fitness_inj]

end RangeClass

/-- A lone star reads as two, whatever parameters follow. -/
theorem MediaRange.ofText?_lone_star (parameters : Text)
    (cut : parameters = [] ∨ parameters.head? = some ';') :
    ofText? ('*' :: parameters) = ofText? ("*/*".toList ++ parameters) := by
  have names : names? (Text.trim ['*']) = names? (Text.trim "*/*".toList) := by decide
  rcases cut with rfl | cut
  · decide
  · obtain ⟨rest, rfl⟩ := List.head?_eq_some_iff.mp cut
    have split : ∀ head : Text, ';' ∉ head →
        (head ++ ';' :: rest).splitOn ';' = head :: rest.splitOn ';' :=
      fun head absent => List.splitOn_append_cons_self_of_not_mem absent rest
    rw [← List.singleton_append, ofText?, ofText?, split _ (by decide), split _ (by decide)]
    simp only [names]

section Declared

variable {t type subtype : Text} (halves : Halves t type subtype)

include halves

theorem Halves.type_ne_star : type ≠ ['*'] := by
  rintro rfl
  exact absurd halves.type_run (by decide)

theorem Halves.subtype_ne_star : subtype ≠ ['*'] := by
  rintro rfl
  exact absurd halves.subtype_run (by decide)

theorem Halves.starless : (MediaRange.plain type subtype).Starless :=
  ⟨halves.type_ne_star, halves.subtype_ne_star⟩

theorem Halves.admits_eq (c : RangeClass) (range : MediaRange) :
    c.admits range t = c.relates range (.plain type subtype) := by
  rw [RangeClass.admits, halves.splitOnce]
  cases c <;> rfl

/-- A range covers a declared type when it admits it in some class. -/
theorem covers_plain_iff (range : MediaRange) :
    range.covers (.plain type subtype) = true ↔ ∃ c : RangeClass, c.admits range t = true := by
  simp only [halves.admits_eq, MediaRange.covers_iff_relates halves.starless]

/-- The fitness of a range is that of the class in which it admits the type. -/
theorem fitness_of_admits {range : MediaRange} {c : RangeClass}
    (admitted : c.admits range t = true) :
    range.fitness (.plain type subtype) = c.fitness := by
  rw [halves.admits_eq] at admitted
  rw [MediaRange.fitness_of_relates halves.starless admitted]
  rfl

end Declared

/-! ## Judging by classes -/

/-- `range` judges `t` in class `c`: no range admits `t` in a more specific class, and none
before it admits `t` in this one. -/
def JudgedBy (ranges : List MediaRange) (t : Text) (c : RangeClass) (range : MediaRange) : Prop :=
  (∀ r ∈ ranges, ∀ other : RangeClass, other.admits r t = true → other ≤ c) ∧
    ∃ before after, ranges = before ++ range :: after ∧ c.admits range t = true ∧
      ∀ r ∈ before, c.admits r t = false

theorem JudgedBy.admits {ranges : List MediaRange} {t : Text} {c : RangeClass}
    {range : MediaRange} (judged : JudgedBy ranges t c range) : c.admits range t = true := by
  obtain ⟨-, -, -, -, admitted, -⟩ := judged
  exact admitted

/-- No range speaks of `t`, or the one that judges it has quality zero. -/
def Refused (ranges : List MediaRange) (t : Text) : Prop :=
  ∀ c range, JudgedBy ranges t c range → range.quality.units = 0

/-- A range that decides about a declared type judges it, and the other way round. -/
theorem decides_iff_judgedBy {t type subtype : Text} (halves : Halves t type subtype)
    (ranges : List MediaRange) (range : MediaRange) :
    MediaRange.Decides ranges (.plain type subtype) range ↔ ∃ c, JudgedBy ranges t c range := by
  have covered : ∀ {r : MediaRange} {c : RangeClass}, c.admits r t = true →
      r.covers (.plain type subtype) = true :=
    fun admitted => (covers_plain_iff halves _).mpr ⟨_, admitted⟩
  constructor
  · intro decides
    obtain ⟨before, after, rfl, covers, below, -⟩ := id decides
    obtain ⟨c, admitted⟩ := (covers_plain_iff halves range).mp covers
    refine ⟨c, ?_, before, after, rfl, admitted, ?_⟩
    · intro r mem other admits
      rw [← RangeClass.fitness_le_iff, ← fitness_of_admits halves admits,
        ← fitness_of_admits halves admitted]
      exact decides.fitness_le mem (covered admits)
    · intro r mem
      rw [Bool.eq_false_iff]
      intro admits
      have lower := below r mem (covered admits)
      rw [fitness_of_admits halves admits, fitness_of_admits halves admitted] at lower
      exact lt_irrefl _ lower
  · rintro ⟨c, most, before, after, rfl, admitted, first⟩
    refine ⟨before, after, rfl, covered admitted, ?_, ?_⟩
    · intro r mem covers
      obtain ⟨other, admits⟩ := (covers_plain_iff halves r).mp covers
      have lower : other ≠ c := by
        rintro rfl
        simp [first r mem] at admits
      rw [fitness_of_admits halves admits, fitness_of_admits halves admitted,
        RangeClass.fitness_lt_iff]
      exact lt_of_le_of_ne (most r (by simp [mem]) other admits) lower
    · intro r mem covers
      obtain ⟨other, admits⟩ := (covers_plain_iff halves r).mp covers
      rw [fitness_of_admits halves admits, fitness_of_admits halves admitted,
        RangeClass.fitness_le_iff]
      exact most r (by simp [mem]) other admits

/-- The type at `index` is judged in class `c` and has the quality `q`, which is above zero. -/
def AcceptedAt (types : List Text) (ranges : List MediaRange) (index : Nat) (c : RangeClass)
    (q : Quality) : Prop :=
  ∃ t range, types[index]? = some t ∧ JudgedBy ranges t c range ∧ range.quality = q ∧ 0 < q.units

/-- Of the accepted types the one at `index` has the most specific class, of these the highest
quality, and of these the first place. -/
def PreferredAt (types : List Text) (ranges : List MediaRange) (index : Nat) : Prop :=
  ∃ c q, AcceptedAt types ranges index c q ∧ ∀ j d r, AcceptedAt types ranges j d r →
    (d < c ∨ d = c ∧ r ≤ q) ∧ (j < index → d < c ∨ d = c ∧ r < q)

section Choice

variable {types : List Text} (declared : ∀ t ∈ types, isMediaType t = true)

include declared

theorem acceptableAt_iff (accept : Text) (index : Nat) (score : Score) :
    AcceptableAt types accept index score ↔
      ∃ c q, AcceptedAt types (MediaRange.listOfAccept accept) index c q ∧
        score = c.score q := by
  have reads : ∀ {t : Text}, types[index]? = some t →
      ∃ type subtype, Halves t type subtype ∧
        MediaRange.ofText? t = some (.plain type subtype) := by
    intro t here
    obtain ⟨type, subtype, halves⟩ :=
      (isMediaType_iff t).mp (declared t (List.mem_of_getElem? here))
    exact ⟨type, subtype, halves, MediaRange.ofText?_of_halves halves⟩
  constructor
  · rintro ⟨t, target, range, here, read, decides, positive, rfl⟩
    obtain ⟨type, subtype, halves, plain⟩ := reads here
    obtain rfl : MediaRange.plain type subtype = target :=
      Option.some.inj (plain.symm.trans read)
    obtain ⟨c, judged⟩ := (decides_iff_judgedBy halves _ range).mp decides
    refine ⟨c, range.quality, ⟨t, range, here, judged, rfl, positive⟩, ?_⟩
    rw [RangeClass.score, fitness_of_admits halves judged.admits]
  · rintro ⟨c, q, ⟨t, range, here, judged, rfl, positive⟩, rfl⟩
    obtain ⟨type, subtype, halves, plain⟩ := reads here
    refine ⟨t, _, range, here, plain, (decides_iff_judgedBy halves _ range).mpr ⟨c, judged⟩,
      positive, ?_⟩
    rw [RangeClass.score, fitness_of_admits halves judged.admits]

/-- The choice by scores is the choice by classes. -/
theorem chosenAt_iff_preferredAt (accept : Text) (index : Nat) :
    ChosenAt types accept index ↔
      PreferredAt types (MediaRange.listOfAccept accept) index := by
  constructor
  · rintro ⟨score, acceptable, best⟩
    obtain ⟨c, q, accepted, rfl⟩ := (acceptableAt_iff declared ..).mp acceptable
    refine ⟨c, q, accepted, fun j d r other => ?_⟩
    rw [← RangeClass.score_le_iff, ← RangeClass.score_lt_iff]
    exact best j _ ((acceptableAt_iff declared ..).mpr ⟨d, r, other, rfl⟩)
  · rintro ⟨c, q, accepted, best⟩
    refine ⟨c.score q, (acceptableAt_iff declared ..).mpr ⟨c, q, accepted, rfl⟩, ?_⟩
    intro j other acceptable
    obtain ⟨d, r, otherAccepted, rfl⟩ := (acceptableAt_iff declared ..).mp acceptable
    rw [RangeClass.score_le_iff, RangeClass.score_lt_iff]
    exact best j d r otherAccepted

/-- Nothing is acceptable exactly when every type is refused. -/
theorem unacceptable_iff_refused (accept : Text) :
    (∀ index score, ¬ AcceptableAt types accept index score) ↔
      ∀ t ∈ types, Refused (MediaRange.listOfAccept accept) t := by
  constructor
  · intro none t mem c range judged
    obtain ⟨index, here⟩ := List.mem_iff_getElem?.mp mem
    by_contra positive
    exact none index _ ((acceptableAt_iff declared ..).mpr
      ⟨c, _, ⟨t, range, here, judged, rfl, Nat.pos_of_ne_zero positive⟩, rfl⟩)
  · intro refused index score acceptable
    obtain ⟨c, q, ⟨t, range, here, judged, rfl, positive⟩, -⟩ :=
      (acceptableAt_iff declared ..).mp acceptable
    exact positive.ne' (refused t (List.mem_of_getElem? here) c range judged)

end Choice

/-! ## A header that is a media type -/

/-- The type at `index` is the first that is `t` but for the case of letters. -/
def FirstAlike (types : List Text) (t : Text) (index : Nat) : Prop :=
  ∃ u, types[index]? = some u ∧ Text.eqIgnoringCase t u = true ∧
    ∀ j < index, ∀ v, types[j]? = some v → Text.eqIgnoringCase t v = false

theorem exists_firstAlike {types : List Text} {t : Text} {index : Nat}
    (here : types[index]? = some t) : ∃ first ≤ index, FirstAlike types t first := by
  classical
  have place : ∃ j, ∃ u, types[j]? = some u ∧ Text.eqIgnoringCase t u = true :=
    ⟨index, t, here, Text.eqIgnoringCase_refl t⟩
  obtain ⟨u, there, alike⟩ := Nat.find_spec place
  refine ⟨Nat.find place, Nat.find_min' place ⟨t, here, Text.eqIgnoringCase_refl t⟩,
    u, there, alike, fun j early v before => ?_⟩
  rw [Bool.eq_false_iff]
  exact fun also => Nat.find_min place early ⟨v, before, also⟩

section Alike

variable {t type subtype : Text} (halves : Halves t type subtype)

include halves

/-- A range with the names of a media type speaks of the types that are alike, and it names
them. -/
theorem Halves.admits_iff_of_names {range : MediaRange} (sameType : range.type = type)
    (sameSubtype : range.subtype = subtype) {u : Text} (declared : isMediaType u = true)
    (c : RangeClass) :
    c.admits range u = true ↔ c = .named ∧ Text.eqIgnoringCase t u = true := by
  obtain ⟨otherType, otherSubtype, other⟩ := (isMediaType_iff u).mp declared
  rw [halves.text, other.text, Text.eqIgnoringCase_cut_iff '/' (by decide) halves.slash_notMem
    other.slash_notMem, ← other.text]
  cases c <;>
    simp [RangeClass.admits, other.splitOnce, sameType, sameSubtype, halves.type_ne_star,
      halves.subtype_ne_star]

/-- A range that is a media type judges the types that are alike, and it names them. -/
theorem judgedBy_plain_iff {u : Text} (declared : isMediaType u = true) (c : RangeClass)
    (range : MediaRange) :
    JudgedBy [.plain type subtype] u c range ↔
      c = .named ∧ range = .plain type subtype ∧ Text.eqIgnoringCase t u = true := by
  have admits : ∀ d : RangeClass, d.admits (.plain type subtype) u = true ↔
      d = .named ∧ Text.eqIgnoringCase t u = true :=
    fun d => halves.admits_iff_of_names rfl rfl declared d
  constructor
  · rintro ⟨-, before, after, cut, admitted, -⟩
    have mem : range ∈ [MediaRange.plain type subtype] := by simp [cut]
    obtain rfl := List.mem_singleton.mp mem
    obtain ⟨named, alike⟩ := (admits c).mp admitted
    exact ⟨named, rfl, alike⟩
  · rintro ⟨rfl, rfl, alike⟩
    refine ⟨?_, [], [], rfl, (admits .named).mpr ⟨rfl, alike⟩, by simp⟩
    intro r mem other admitted
    obtain rfl := List.mem_singleton.mp mem
    exact ((admits other).mp admitted).1.le

/-- Of several types that are alike the first is preferred, whatever the case of its letters. -/
theorem preferredAt_plain_iff {types : List Text} (declared : ∀ u ∈ types, isMediaType u = true)
    (index : Nat) :
    PreferredAt types [.plain type subtype] index ↔ FirstAlike types t index := by
  have accepted : ∀ j c q, AcceptedAt types [.plain type subtype] j c q ↔
      (c = .named ∧ q = .one) ∧ ∃ u, types[j]? = some u ∧ Text.eqIgnoringCase t u = true := by
    intro j c q
    constructor
    · rintro ⟨u, range, here, judged, rfl, -⟩
      obtain ⟨rfl, rfl, alike⟩ :=
        (judgedBy_plain_iff halves (declared u (List.mem_of_getElem? here)) c range).mp judged
      exact ⟨⟨rfl, rfl⟩, u, here, alike⟩
    · rintro ⟨⟨rfl, rfl⟩, u, here, alike⟩
      exact ⟨u, _, here, (judgedBy_plain_iff halves (declared u (List.mem_of_getElem? here)) ..).mpr
        ⟨rfl, rfl, alike⟩, rfl, by decide⟩
  constructor
  · rintro ⟨c, q, chosen, best⟩
    obtain ⟨⟨rfl, rfl⟩, u, here, alike⟩ := (accepted ..).mp chosen
    refine ⟨u, here, alike, fun j early v there => ?_⟩
    rw [Bool.eq_false_iff]
    intro also
    have worse := (best j _ _ ((accepted ..).mpr ⟨⟨rfl, rfl⟩, v, there, also⟩)).2 early
    simp at worse
  · rintro ⟨u, here, alike, first⟩
    refine ⟨_, _, (accepted ..).mpr ⟨⟨rfl, rfl⟩, u, here, alike⟩, fun j d r other => ?_⟩
    obtain ⟨⟨rfl, rfl⟩, v, there, also⟩ := (accepted ..).mp other
    refine ⟨.inr ⟨rfl, le_refl _⟩, fun early => ?_⟩
    simp [first j early v there] at also

end Alike
end Multipage
