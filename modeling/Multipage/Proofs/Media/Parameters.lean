/-
# Multipage.Proofs.Media.Parameters -- parameters between types of equal precedence

The fitness of a range is the number of its class and one more for each parameter that it
repeats (`MediaRange.fitness_of_relates`).  Two classes lie ten or more apart
(`RangeClass.fitness_add_ten_le`), so fewer than ten parameters cannot lift a range into the next
class: they only break ties within one.

* `Precedence` says what the classes promise: the range that decides about a type is of the most
  specific class that occurs for it, and a type is not chosen over one decided more specifically.
* `precedence_of_few_parameters`: the promise is kept for types of fewer than ten parameters.
* `exists_misjudged`: ten are too many.  A header that repeats them with a star for the subtype
  goes before the one that names the type.
* `parameters_outrank_subtype`: a type that is named with a quality above zero is refused.
-/
import Multipage.Proofs.Media.RangeClass
import Multipage.Proofs.Media.Reading

namespace Multipage

set_option autoImplicit false

/-! ## Types of few parameters -/

namespace MediaRange

theorem starless_of_ofText? {t : Text} {target : MediaRange} (starless : '*' ∉ t)
    (read : ofText? t = some target) : target.Starless := by
  obtain ⟨⟨inType, inSubtype⟩, -⟩ := names_subset_of_ofText? read
  exact ⟨fun star => starless (inType (by simp [star])),
    fun star => starless (inSubtype (by simp [star]))⟩

section Starless

variable {target : MediaRange} (starless : target.Starless)

include starless

/-- What a more specific range lacks to the one that decides, the latter makes up in parameters. -/
theorem Decides.repeated_makes_up {ranges : List MediaRange} {range other : MediaRange}
    {c d : RangeClass} (decides : Decides ranges target range)
    (related : c.relates range target = true) (mem : other ∈ ranges)
    (otherRelated : d.relates other target = true) :
    d.fitness + other.repeated target ≤ c.fitness + range.repeated target := by
  rw [← fitness_of_relates starless related, ← fitness_of_relates starless otherRelated]
  exact decides.fitness_le mem ((covers_iff_relates starless other).mpr ⟨d, otherRelated⟩)

/-- The range that decides about a type of few parameters is of the most specific class. -/
theorem Decides.class_le {ranges : List MediaRange} {range other : MediaRange}
    {c d : RangeClass} (few : target.parameters.length < 10)
    (decides : Decides ranges target range) (related : c.relates range target = true)
    (mem : other ∈ ranges) (otherRelated : d.relates other target = true) : d ≤ c := by
  by_contra above
  have apart := RangeClass.fitness_add_ten_le (not_le.mp above)
  have makesUp := decides.repeated_makes_up starless related mem otherRelated
  have bound := range.repeated_le target
  omega

end Starless
end MediaRange

/-! ## What the classes promise -/

/-- The type at `index` is acceptable, and the range that decides about it is of class `c`. -/
def DecidedIn (available : List Text) (accept : Text) (index : Nat) (c : RangeClass) : Prop :=
  ∃ t target range, available[index]? = some t ∧ MediaRange.ofText? t = some target ∧
    target.deciding? (MediaRange.listOfAccept accept) = some range ∧
    0 < range.quality.units ∧ c.relates range target = true

/-- The range that decides about a type is of the most specific class that the header has for it:
it names the type when some range does, and has a star for the subtype only when none does.  Of
two acceptable types, the one that is decided less specifically is not the choice. -/
structure Precedence (available : List Text) (accept : Text) : Prop where
  decides : ∀ t ∈ available, ∀ target range, MediaRange.ofText? t = some target →
    target.deciding? (MediaRange.listOfAccept accept) = some range →
      ∃ c : RangeClass, c.relates range target = true ∧
        ∀ other ∈ MediaRange.listOfAccept accept, ∀ d : RangeClass,
          d.relates other target = true → d ≤ c
  chooses : ∀ i j c d, DecidedIn available accept i c → DecidedIn available accept j d → d < c →
    bestMatch? available accept ≠ some j ∧ negotiate available (some accept) ≠ .ok j

/-- By precedence, a range that names a type decides when there is one. -/
theorem Precedence.names {available : List Text} {accept t : Text}
    {target range other : MediaRange} (promised : Precedence available accept)
    (mem : t ∈ available) (read : MediaRange.ofText? t = some target)
    (decides : target.deciding? (MediaRange.listOfAccept accept) = some range)
    (here : other ∈ MediaRange.listOfAccept accept)
    (named : RangeClass.named.relates other target = true) :
    RangeClass.named.relates range target = true := by
  obtain ⟨c, related, most⟩ := promised.decides t mem target range read decides
  have atLeast := most other here .named named
  cases c with
  | named => exact related
  | anything | anyType | anySubtype => exact absurd atLeast (by decide)

/-- Every type of the list has few parameters. -/
def FewParameters (available : List Text) : Prop :=
  ∀ t ∈ available, ∀ target, MediaRange.ofText? t = some target → target.parameters.length < 10

section FewParameters

variable {available : List Text} (starless : ∀ t ∈ available, '*' ∉ t)
  (few : FewParameters available)

include starless few

/-- The score of a type lies less than ten above the number of its class. -/
theorem fitness_of_decidedIn {accept : Text} {index : Nat} {c : RangeClass} {score : Score}
    (decided : DecidedIn available accept index c)
    (acceptable : AcceptableAt available accept index score) :
    c.fitness ≤ score.fitness ∧ score.fitness < c.fitness + 10 := by
  obtain ⟨t, target, range, here, read, decides, -, related⟩ := decided
  obtain ⟨_, _, other, alsoHere, alsoRead, otherDecides, -, rfl⟩ := acceptable
  obtain rfl := Option.some.inj (here.symm.trans alsoHere)
  obtain rfl := Option.some.inj (read.symm.trans alsoRead)
  rw [← MediaRange.deciding?_eq_some_iff] at otherDecides
  obtain rfl := Option.some.inj (decides.symm.trans otherDecides)
  have mem := List.mem_of_getElem? here
  have fitness := MediaRange.fitness_of_relates
    (MediaRange.starless_of_ofText? (starless t mem) read) related
  have bound := range.repeated_le target
  have count := few t mem target read
  simp only [fitness]
  omega

theorem precedence_of_few_parameters (accept : Text) : Precedence available accept := by
  refine ⟨?_, ?_⟩
  · intro t mem target range read decides
    rw [MediaRange.deciding?_eq_some_iff] at decides
    have noStar := MediaRange.starless_of_ofText? (starless t mem) read
    obtain ⟨before, after, -, covers, -⟩ := id decides
    obtain ⟨c, related⟩ := (MediaRange.covers_iff_relates noStar range).mp covers
    exact ⟨c, related, fun other here d otherRelated =>
      decides.class_le noStar (few t mem target read) related here otherRelated⟩
  · intro i j c d decidedI decidedJ lower
    rw [Ne, bestMatch?_eq_some_iff, Ne, negotiate_eq_ok_iff, and_self]
    rintro ⟨score, acceptable, best⟩
    obtain ⟨t, target, range, here, read, decides, positive, -⟩ := id decidedI
    have acceptableI : AcceptableAt available accept i ⟨range.fitness target, range.quality⟩ :=
      ⟨t, target, range, here, read, (MediaRange.deciding?_eq_some_iff ..).mp decides, positive,
        rfl⟩
    obtain ⟨least, -⟩ := fitness_of_decidedIn starless few decidedI acceptableI
    obtain ⟨-, most⟩ := fitness_of_decidedIn starless few decidedJ acceptable
    have apart := RangeClass.fitness_add_ten_le lower
    have level := (Score.le_iff _ _).mp (best i _ acceptableI).1
    simp only at least level
    omega

end FewParameters

/-! ## Ten parameters -/

/-- The header that repeats everything behind the first semicolon of a type, first with a star
for the subtype and then not at all. -/
def repeatingHeader (type subtype more : Text) : Text :=
  (type ++ '/' :: '*' :: ';' :: (more ++ [';'])) ++ ',' :: (type ++ '/' :: subtype)

/-- Such a header has two ranges: one with all parameters, the other with none. -/
theorem listOfAccept_repeatingHeader {type subtype : Text} (more : Text)
    (someType : type ≠ []) (someSubtype : subtype ≠ []) (trimmedType : Text.trim type = type)
    (trimmedSubtype : Text.trim subtype = subtype) (slash : '/' ∉ type)
    (semicolon : ';' ∉ type ∧ ';' ∉ subtype)
    (comma : ',' ∉ type ∧ ',' ∉ subtype ∧ ',' ∉ more) :
    MediaRange.listOfAccept (repeatingHeader type subtype more) =
      [.assemble (type, ['*']) (more.splitOn ';'), .assemble (type, subtype) []] := by
  have pieces : (more ++ [';']).splitOn ';' = more.splitOn ';' ++ [[]] := by
    rw [List.splitOn_append_cons_self]
    rfl
  have trimmed : Text.trim (type ++ '/' :: '*' :: ';' :: (more ++ [';'])) =
      (type ++ ['/', '*']) ++ ';' :: (more ++ [';']) := by
    have ends := Text.trim_append ('/' :: '*' :: ';' :: more) someType
      (List.cons_ne_nil ';' []) trimmedType (by decide)
    simpa using ends
  have first : MediaRange.listOfAccept (type ++ '/' :: '*' :: ';' :: (more ++ [';'])) =
      [.assemble (type, ['*']) (more.splitOn ';')] := by
    rw [MediaRange.listOfAccept_of_notMem (by simp [comma]), trimmed,
      MediaRange.ofText?_append (by simp [semicolon]), pieces,
      MediaRange.names?_slash someType (by simp) trimmedType (by decide) slash]
    -- the semicolon at the end adds a piece that is no parameter
    simp [MediaRange.assemble, MediaRange.parameter?, Text.splitOnce]
  have second : MediaRange.listOfAccept (type ++ '/' :: subtype) =
      [.assemble (type, subtype) []] := by
    have named := MediaRange.names?_slash someType someSubtype trimmedType trimmedSubtype slash
    have whole : Text.trim (type ++ '/' :: subtype) = type ++ '/' :: subtype := by
      simpa using Text.trim_append ['/'] someType someSubtype trimmedType
        trimmedSubtype
    rw [whole] at named
    rw [MediaRange.listOfAccept_of_notMem (by simp [comma]), whole,
      MediaRange.ofText?_of_notMem (by simp [semicolon]), whole, named]
    rfl
  rw [repeatingHeader, MediaRange.listOfAccept_append (by simp [comma]), first, second]
  rfl

/-- A range that has the parameters of a type repeats all of them. -/
theorem repeated_assemble (names targetNames : Text × Text) (pieces : List Text) :
    (MediaRange.assemble names pieces).repeated (.assemble targetNames pieces) =
      (MediaRange.assemble targetNames pieces).parameters.length := by
  rw [MediaRange.repeated, List.countP_eq_length]
  exact fun p mem => List.contains_iff_mem.mpr mem

/-- About a type of ten parameters or more a range with a star can decide although another names
the type. -/
theorem exists_misjudged {t : Text} {target : MediaRange} (starless : '*' ∉ t) (comma : ',' ∉ t)
    (read : MediaRange.ofText? t = some target) (many : 10 ≤ target.parameters.length) :
    ∃ accept range other, target.deciding? (MediaRange.listOfAccept accept) = some range ∧
      range.subtype = ['*'] ∧ other ∈ MediaRange.listOfAccept accept ∧
      RangeClass.named.relates other target = true := by
  have noStar := MediaRange.starless_of_ofText? starless read
  obtain ⟨⟨inType, inSubtype⟩, semicolon⟩ := MediaRange.names_subset_of_ofText? read
  have cut : ';' ∈ t := by
    by_contra whole
    rw [MediaRange.ofText?_of_notMem whole, Option.map_eq_some_iff] at read
    obtain ⟨names, -, rfl⟩ := read
    simp [MediaRange.assemble] at many
  obtain ⟨head, more, rfl, single⟩ := List.eq_append_cons_of_mem cut
  rw [MediaRange.ofText?_append single, Option.map_eq_some_iff] at read
  obtain ⟨⟨type, subtype⟩, named, rfl⟩ := read
  rcases (MediaRange.names?_eq_some_iff ..).mp named with
    ⟨-, star, -⟩ | ⟨-, someType, someSubtype, before, after, -, slash, rfl, rfl⟩
  · exact absurd star noStar.type
  have ranges := listOfAccept_repeatingHeader more someType someSubtype
    (Text.trim_trim _) (Text.trim_trim _) (fun mem => slash (Text.trim_subset _ mem)) semicolon
    ⟨fun mem => comma (inType mem), fun mem => comma (inSubtype mem),
      fun mem => comma (by simp [mem])⟩
  let starred := MediaRange.assemble (Text.trim before, ['*']) (more.splitOn ';')
  let bare := MediaRange.assemble (Text.trim before, Text.trim after) []
  have starredRelated : RangeClass.anySubtype.relates starred
      (.assemble (Text.trim before, Text.trim after) (more.splitOn ';')) = true := by
    simp [RangeClass.relates, MediaRange.sameType, starred, MediaRange.assemble]
  have bareRelated : RangeClass.named.relates bare
      (.assemble (Text.trim before, Text.trim after) (more.splitOn ';')) = true := by
    simp [RangeClass.relates, MediaRange.sameType, MediaRange.sameSubtype, bare,
      MediaRange.assemble]
  refine ⟨repeatingHeader (Text.trim before) (Text.trim after) more, starred, bare, ?_, rfl,
    by rw [ranges]; simp [bare], bareRelated⟩
  rw [ranges, MediaRange.deciding?_eq_some_iff]
  refine ⟨[], [bare], rfl, (MediaRange.covers_iff_relates noStar _).mpr ⟨_, starredRelated⟩,
    by simp, ?_⟩
  intro r mem _
  obtain rfl := List.mem_singleton.mp mem
  have none : bare.repeated (.assemble (Text.trim before, Text.trim after) (more.splitOn ';')) =
      0 := by
    simp [MediaRange.repeated, bare, MediaRange.assemble]
  rw [MediaRange.fitness_of_relates noStar starredRelated,
    MediaRange.fitness_of_relates noStar bareRelated, repeated_assemble, none]
  simp only [RangeClass.fitness]
  omega

/-- **Parameters break ties within a class, as long as there are fewer than ten of them.**  For
types of fewer than ten parameters the range that decides is of the most specific class of the
header, and the choice goes to the most specifically decided of the acceptable types.  If a header
can repeat the parameters, that is, if no type has a comma in it, then no greater number will do. -/
theorem precedence_iff_few_parameters (available : List Text)
    (starless : ∀ t ∈ available, '*' ∉ t) :
    (FewParameters available → ∀ accept, Precedence available accept) ∧
    ((∀ t ∈ available, ',' ∉ t) →
      ((∀ accept, Precedence available accept) ↔ FewParameters available)) := by
  refine ⟨precedence_of_few_parameters starless, fun comma => ⟨?_,
    precedence_of_few_parameters starless⟩⟩
  intro promised t mem target read
  by_contra many
  obtain ⟨accept, range, other, decides, star, here, named⟩ :=
    exists_misjudged (starless t mem) (comma t mem) read (not_lt.mp many)
  have noStar := MediaRange.starless_of_ofText? (starless t mem) read
  have notSame := MediaRange.not_sameSubtype_star noStar star
  have alsoNamed := (promised accept).names mem read decides here named
  simp [RangeClass.relates, notSame] at alsoNamed

/-- Nine parameters, all of them repeated by a range with a star: the range that names the type
decides.  So any header judges these two types by precedence. -/
theorem precedence_iff_few_parameters_nine :
    let available : List Text :=
      ["text/html;a=1;b=1;c=1;d=1;e=1;f=1;g=1;h=1;i=1".toList, "text/plain".toList]
    (∀ accept, Precedence available accept) ∧ FewParameters available := by
  intro available
  have few : FewParameters available := by
    intro t mem target read
    have all : ∀ t ∈ available,
        (MediaRange.ofText? t).all (fun target => decide (target.parameters.length < 10)) := by
      decide +kernel
    have small := all t mem
    rw [read, Option.all_some] at small
    exact of_decide_eq_true small
  obtain ⟨promised, exact⟩ := precedence_iff_few_parameters available (by decide)
  exact ⟨promised few, (exact (by decide)).mp (promised few)⟩

/-- Eleven parameters that a range with a star repeats outweigh the name of the subtype: that
range decides although another names the type, and the type is refused although the one that
names it has a quality above zero. -/
theorem parameters_outrank_subtype :
    let t : Text := "text/html;a=1;b=1;c=1;d=1;e=1;f=1;g=1;h=1;i=1;j=1;k=1"
    let accept : Text :=
      "text/html;q=0.5, text/*;a=1;b=1;c=1;d=1;e=1;f=1;g=1;h=1;i=1;j=1;k=1;q=0"
    '*' ∉ t ∧
    (∃ target range other, MediaRange.ofText? t = some target ∧
      target.deciding? (MediaRange.listOfAccept accept) = some range ∧
      RangeClass.named.relates range target = false ∧
      other ∈ MediaRange.listOfAccept accept ∧ RangeClass.named.relates other target = true) ∧
    ¬Precedence [t] accept ∧
    bestMatch? [t] accept = none ∧ bestMatch? [t] "text/html;q=0.5" = some 0 := by
  intro t accept
  have misjudged : ∃ target range other, MediaRange.ofText? t = some target ∧
      target.deciding? (MediaRange.listOfAccept accept) = some range ∧
      RangeClass.named.relates range target = false ∧
      other ∈ MediaRange.listOfAccept accept ∧
      RangeClass.named.relates other target = true := by
    have decided : (MediaRange.ofText? t).any fun target =>
        (target.deciding? (MediaRange.listOfAccept accept)).any fun range =>
          !RangeClass.named.relates range target &&
            (MediaRange.listOfAccept accept).any fun other =>
              RangeClass.named.relates other target := by
      decide +kernel
    simp only [Option.any_eq_true, Bool.and_eq_true, Bool.not_eq_true', List.any_eq_true] at decided
    obtain ⟨target, read, range, decides, notNamed, other, here, named⟩ := decided
    exact ⟨target, range, other, read, decides, notNamed, here, named⟩
  refine ⟨by decide, misjudged, fun promised => ?_, by decide +kernel, by decide +kernel⟩
  obtain ⟨target, range, other, read, decides, notNamed, here, named⟩ := misjudged
  have alsoNamed := promised.names (by simp) read decides here named
  simp [notNamed] at alsoNamed

end Multipage
