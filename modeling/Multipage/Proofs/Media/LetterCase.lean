/-
# Multipage.Proofs.Media.LetterCase -- negotiation in letters of any case

A type that may be declared is judged by the names of a range in lower case and by its quality,
and by nothing else (`MediaRange.lowered`).  Names are cut at marks and blanks, which have no
case, and a quality is a number, which is read in any case; so of two headers that differ in the
case of letters the same names are read.  What is left is which parameters give the quality: those
that are spelled `q`, in lower case (`qualitySpelling`).

* `Score.of?_lowered`: a score is that of the lowered ranges for the lowered type;
* `MediaRange.lowered_listOfAccept_congr`: headers alike, with the same parameters spelled `q`,
  have the same lowered ranges;
* `bestMatch?_ignores_case`: so they choose the same among types that are alike;
* `capital_q_accepts`: a capital letter in the name of the quality makes it any other parameter.
-/
import Multipage.Proofs.Media.Choice
import Multipage.Proofs.Media.Declared
import Multipage.Proofs.Media.Reading
import Multipage.Proofs.Number.Spelling

namespace Multipage

set_option autoImplicit false

open Text

/-- Lists that look alike give alike what depends on the looks alone. -/
theorem filterMap_congr_of_factors {α β γ : Type} {look : α → β} {f : α → Option γ}
    (factors : f.FactorsThrough look) {as bs : List α} (alike : as.map look = bs.map look) :
    as.filterMap f = bs.filterMap f := by
  obtain ⟨view, rfl⟩ := (Function.factorsThrough_iff f).mp factors
  rw [← List.filterMap_map, alike, List.filterMap_map]

/-! ## Declared types in lower case -/

theorem isMediaTypeChar_toLower (c : Char) : isMediaTypeChar c.toLower = isMediaTypeChar c := by
  have other : ∀ c : Char, c.isAlpha = true → (!isMediaTypeChar c) = false := by
    intro c letter
    simp [isMediaTypeChar, Char.isAlphanum, letter]
  simpa using toLower_blind (fun c => !isMediaTypeChar c) other c

theorem isMediaType_asciiLower (t : Text) : isMediaType (asciiLower t) = isMediaType t := by
  rw [isMediaType, isMediaType, splitOnce_asciiLower (by decide)]
  cases splitOnce '/' t with
  | none => rfl
  | some parts => simp only [Option.map_some, isRunOf_asciiLower isMediaTypeChar_toLower]

theorem Halves.asciiLower {t type subtype : Text} (halves : Halves t type subtype) :
    Halves (Text.asciiLower t) (Text.asciiLower type) (Text.asciiLower subtype) := by
  refine ⟨?_, ?_, ?_⟩
  · rw [halves.text, asciiLower_cut (by decide)]
  · rw [isRunOf_asciiLower isMediaTypeChar_toLower, halves.type_run]
  · rw [isRunOf_asciiLower isMediaTypeChar_toLower, halves.subtype_run]

/-! ## What a declared type is judged by -/

namespace MediaRange

/-- The range with its names in lower case and without its parameters. -/
def lowered (range : MediaRange) : MediaRange :=
  { type := asciiLower range.type, subtype := asciiLower range.subtype, parameters := []
    quality := range.quality }

variable (range : MediaRange) (type subtype : Text)

theorem lowered_plain :
    (plain type subtype).lowered = plain (asciiLower type) (asciiLower subtype) := rfl

theorem sameType_lowered (target : MediaRange) :
    range.lowered.sameType target.lowered = range.sameType target :=
  eqIgnoringCase_asciiLower ..

theorem sameSubtype_lowered (target : MediaRange) :
    range.lowered.sameSubtype target.lowered = range.sameSubtype target :=
  eqIgnoringCase_asciiLower ..

theorem covers_lowered (target : MediaRange) :
    range.lowered.covers target.lowered = range.covers target := by
  have star : ∀ t : Text, (asciiLower t == ['*']) = (t == ['*']) := by
    intro t
    rw [Bool.eq_iff_iff, beq_iff_eq, beq_iff_eq, asciiLower_eq_star_iff]
  rw [covers, covers, sameType_lowered, sameSubtype_lowered]
  simp only [lowered, star]

theorem fitness_lowered_plain :
    range.lowered.fitness (plain type subtype).lowered = range.fitness (plain type subtype) := by
  rw [fitness, fitness, sameType_lowered, sameSubtype_lowered]
  rfl

theorem deciding?_lowered (ranges : List MediaRange) :
    (plain type subtype).lowered.deciding? (ranges.map lowered) =
      ((plain type subtype).deciding? ranges).map lowered := by
  have covers : (fun range : MediaRange => range.covers (plain type subtype).lowered) ∘ lowered =
      fun range => range.covers (plain type subtype) :=
    funext fun range => covers_lowered range _
  rw [deciding?, deciding?, List.filter_map, covers]
  refine firstGreatest_map lowered (fun a b => ?_) _
  rw [fitness_lowered_plain, fitness_lowered_plain]

end MediaRange

/-- A declared type has the score that it has in lower case, by ranges in lower case. -/
theorem Score.of?_lowered {t : Text} (declared : isMediaType t = true)
    (ranges : List MediaRange) :
    Score.of? (ranges.map MediaRange.lowered) (asciiLower t) = Score.of? ranges t := by
  obtain ⟨type, subtype, halves⟩ := (isMediaType_iff t).mp declared
  rw [Score.of?, Score.of?, MediaRange.ofText?_of_halves halves,
    MediaRange.ofText?_of_halves halves.asciiLower, Option.bind_some, Option.bind_some,
    ← MediaRange.lowered_plain, MediaRange.deciding?_lowered]
  cases (MediaRange.plain type subtype).deciding? ranges with
  | none => rfl
  | some range =>
      rw [Option.map_some, Option.bind_some, Option.bind_some, MediaRange.fitness_lowered_plain]
      rfl

theorem acceptableTypes_lowered {types : List Text}
    (declared : ∀ t ∈ types, isMediaType t = true) (accept : Text) :
    acceptableTypes types accept =
      (types.map asciiLower).zipIdx.filterMap fun entry =>
        (Score.of? ((MediaRange.listOfAccept accept).map MediaRange.lowered) entry.1).map
          fun score => (entry.2, score) := by
  rw [acceptableTypes, List.zipIdx_map, List.filterMap_map]
  refine List.filterMap_congr fun entry mem => ?_
  have here : entry.1 ∈ types := List.fst_mem_of_mem_zipIdx mem
  simp only [Function.comp_apply, Prod.map_fst, Prod.map_snd, id_eq,
    Score.of?_lowered (declared entry.1 here)]

/-! ## What is read of a header in lower case -/

namespace MediaRange

/-- Whether a piece is a parameter that is spelled `q`. -/
def spellsQuality (piece : Text) : Bool := (parameter? piece).any isQuality

theorem parameter?_asciiLower (piece : Text) :
    parameter? (asciiLower piece) =
      (parameter? piece).map fun p => (asciiLower p.1, asciiLower p.2) := by
  rw [parameter?, parameter?, splitOnce_asciiLower (by decide), Option.map_map, Option.map_map]
  congr 1
  funext parts
  simp only [Function.comp_apply, trim_asciiLower]

theorem names?_asciiLower (t : Text) :
    names? (asciiLower t) =
      (names? t).map fun names => (asciiLower names.1, asciiLower names.2) := by
  by_cases star : t = ['*']
  · subst star
    rfl
  have lowerStar : asciiLower t ≠ ['*'] := mt (asciiLower_eq_star_iff t).mp star
  rw [names?, names?, if_neg star, if_neg lowerStar, splitOnce_asciiLower (by decide)]
  cases splitOnce '/' t with
  | none => rfl
  | some parts =>
      simp only [Option.map_some, trim_asciiLower, List.isEmpty_iff, Bool.or_eq_true,
        asciiLower_eq_nil_iff]
      split <;> rfl

/-- The value of a piece that is spelled `q`, in lower case. -/
def loweredQuality? (piece : Text) : Option Text :=
  ((parameter? piece).filter isQuality).map fun p => asciiLower p.2

theorem loweredQuality?_factors :
    loweredQuality?.FactorsThrough fun piece => (asciiLower piece, spellsQuality piece) := by
  intro piece other alike
  obtain ⟨same, spelled⟩ := Prod.mk.inj alike
  have values := congrArg parameter? same
  rw [parameter?_asciiLower, parameter?_asciiLower] at values
  rw [spellsQuality, spellsQuality] at spelled
  rw [loweredQuality?, loweredQuality?]
  cases first : parameter? piece with
  | none =>
      cases second : parameter? other with
      | none => rfl
      | some q => simp [first, second] at values
  | some p =>
      cases second : parameter? other with
      | none => simp [first, second] at values
      | some q =>
          simp only [first, second, Option.map_some, Option.some_inj, Prod.mk.injEq] at values
          simp only [first, second, Option.any_some] at spelled
          simp only [Option.filter_some, spelled]
          split
          · rw [Option.map_some, Option.map_some, values.2]
          · rfl

/-- The range of names in lower case whose quality is the last of the values. -/
def ofLowered (names : Text × Text) (values : List Text) : MediaRange :=
  { type := names.1, subtype := names.2, parameters := []
    quality := (values.getLast?.map fun value => (Quality.ofText? value).getD .one).getD .one }

theorem qualityOf_eq (pieces : List Text) :
    qualityOf (pieces.filterMap parameter?) =
      ((pieces.filterMap loweredQuality?).getLast?.map
        fun value => (Quality.ofText? value).getD .one).getD .one := by
  have values : pieces.filterMap loweredQuality? =
      ((pieces.filterMap parameter?).filter isQuality).map fun p => asciiLower p.2 := by
    rw [List.filter_filterMap, List.map_filterMap]
    rfl
  rw [qualityOf, values, List.getLast?_map]
  cases ((pieces.filterMap parameter?).filter isQuality).getLast? with
  | none => rfl
  | some p => simp only [Option.map_some, Option.getD_some, Quality.ofText?_asciiLower]

theorem lowered_ofText? {element head : Text} {pieces : List Text}
    (cut : element.splitOn ';' = head :: pieces) :
    (ofText? element).map lowered =
      (names? (trim (asciiLower head))).map fun names =>
        ofLowered names (pieces.filterMap loweredQuality?) := by
  rw [ofText?_of_splitOn cut, trim_asciiLower, names?_asciiLower, Option.map_map, Option.map_map]
  refine congrArg (fun view => (names? (trim head)).map view) (funext fun names => ?_)
  simp only [Function.comp_apply, lowered, assemble, ofLowered, qualityOf_eq]

/-- Which pieces behind the first semicolon of an element are spelled `q`. -/
def spelling (element : Text) : List Bool := (element.splitOn ';').tail.map spellsQuality

theorem lowered_ofText?_factors :
    (fun element => (ofText? element).map lowered).FactorsThrough
      fun element => (asciiLower element, spelling element) := by
  intro element other alike
  obtain ⟨same, spelled⟩ := Prod.mk.inj alike
  have cuts := congrArg (List.splitOn ';') same
  rw [splitOn_asciiLower (by decide), splitOn_asciiLower (by decide)] at cuts
  rw [spelling, spelling] at spelled
  obtain ⟨head, pieces, cut⟩ := List.exists_cons_of_ne_nil (List.splitOn_ne_nil ';' element)
  obtain ⟨otherHead, otherPieces, otherCut⟩ :=
    List.exists_cons_of_ne_nil (List.splitOn_ne_nil ';' other)
  rw [cut, otherCut, List.map_cons, List.map_cons, List.cons.injEq] at cuts
  rw [cut, otherCut, List.tail_cons, List.tail_cons] at spelled
  have values : pieces.filterMap loweredQuality? = otherPieces.filterMap loweredQuality? := by
    refine filterMap_congr_of_factors loweredQuality?_factors ?_
    rw [← List.zip_map', ← List.zip_map', cuts.2, spelled]
  simp only [lowered_ofText? cut, lowered_ofText? otherCut, cuts.1, values]

/-- Which parameters of a header are spelled `q`, element by element. -/
def qualitySpelling (accept : Text) : List (List Bool) := (elements accept).map spelling

theorem elements_asciiLower (accept : Text) :
    elements (asciiLower accept) = (elements accept).map asciiLower := by
  rw [elements, elements, splitOn_asciiLower (by decide), List.map_map, List.map_map]
  exact List.map_congr_left fun element _ => trim_asciiLower element

/-- Headers that differ in the case of letters, but not in what they spell `q`, say the same
about declared types. -/
theorem lowered_listOfAccept_congr {accept other : Text}
    (same : asciiLower accept = asciiLower other)
    (spelled : qualitySpelling accept = qualitySpelling other) :
    (listOfAccept accept).map lowered = (listOfAccept other).map lowered := by
  have alike := congrArg elements same
  rw [elements_asciiLower, elements_asciiLower] at alike
  rw [qualitySpelling, qualitySpelling] at spelled
  rw [listOfAccept_eq, listOfAccept_eq, List.map_filterMap, List.map_filterMap]
  refine filterMap_congr_of_factors lowered_ofText?_factors ?_
  rw [← List.zip_map', ← List.zip_map', alike, spelled]

end MediaRange

/-! ## The choice -/

/-- **The case of letters changes the choice in one place alone: the name of the quality.**
Among declared types, and types equal to them in letters of any case, two headers that are
equal in letters of any case choose the same place, or both none, as long as they spell the
same of their parameters `q`. -/
theorem bestMatch?_ignores_case {types others : List Text} {accept other : Text}
    (declared : ∀ t ∈ types, isMediaType t = true)
    (sameTypes : types.map asciiLower = others.map asciiLower)
    (sameHeader : asciiLower accept = asciiLower other)
    (sameSpelling : MediaRange.qualitySpelling accept = MediaRange.qualitySpelling other) :
    bestMatch? types accept = bestMatch? others other := by
  have othersDeclared : ∀ t ∈ others, isMediaType t = true := by
    intro t mem
    have lowerMem : asciiLower t ∈ types.map asciiLower :=
      sameTypes ▸ List.mem_map_of_mem mem
    obtain ⟨s, sMem, sameCase⟩ := List.mem_map.mp lowerMem
    rw [← isMediaType_asciiLower, ← sameCase, isMediaType_asciiLower]
    exact declared s sMem
  rw [bestMatch?, bestMatch?, acceptableTypes_lowered declared,
    acceptableTypes_lowered othersDeclared, sameTypes,
    MediaRange.lowered_listOfAccept_congr sameHeader sameSpelling]

/-- Types, stars and exponents in letters of either case. -/
theorem bestMatch?_ignores_case_mixed :
    bestMatch? ["text/html".toList, "text/plain".toList] "TEXT/*;q=5E-1, text/HTML;q=0" =
      bestMatch? ["TEXT/html".toList, "text/PLAIN".toList] "text/*;q=5e-1, Text/html;q=0" :=
  bestMatch?_ignores_case (by decide) (by decide) (by decide) (by decide)

/-- A capital letter makes `q` any other parameter, so what was refused is accepted. -/
theorem capital_q_accepts :
    isMediaType "text/html".toList = true ∧
      asciiLower "text/html;q=0".toList = asciiLower "text/html;Q=0".toList ∧
      bestMatch? ["text/html".toList] "text/html;q=0".toList = none ∧
      bestMatch? ["text/html".toList] "text/html;Q=0".toList = some 0 := by
  exact ⟨by decide, by decide, by decide +kernel, by decide +kernel⟩

end Multipage
