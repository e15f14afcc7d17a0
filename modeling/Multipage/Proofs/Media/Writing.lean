/-
# Multipage.Proofs.Media.Writing -- how the ranges of a header may be written

A range may be written in many ways: with blanks around every mark, with its quality before, behind
or among its parameters, and more than once, and with pieces between them that are no parameters.
Between the ranges of a header there may be elements that are no ranges.  The relations below say
which texts are written for what, one for each level at which a header is cut:

* `Spells`: a part, with blanks around it;
* `PieceReads`: a parameter, a quality, or nothing, behind a semicolon;
* `NamesRead` and `Nameless`: what stands before the first semicolon;
* `ElementReads` and `ReadsNothing`: what stands between commas;
* `ElementsRead`: a header.

Reading finds at each level what is written there, and every text is written for something, so a
header has the ranges that it is written for and no others (`listOfAccept_eq_iff_elementsRead`).
-/
import Multipage.Proofs.Media.Choice
import Multipage.Proofs.Media.Reading
import Mathlib.Data.List.Forall2

namespace Multipage

set_option autoImplicit false

/-! ## Qualities -/

namespace Quality

/-- The quality that the last text for it gives: the 32-bit number that it spells, when this is one
from zero to one, and otherwise one. -/
inductive Given : Option Text → Quality → Prop where
  | absent : Given none .one
  | number {text : Text} {number : Binary} {quality : Quality}
      (spells : Binary.ofText? .single text = some number) (fraction : number.isFraction = true)
      (same : Binary.compare? number quality.number = some .eq) : Given (some text) quality
  | other {text : Text}
      (noFraction : ∀ number, Binary.ofText? .single text = some number →
        number.isFraction = false) : Given (some text) .one

/-- A text is a quality when it spells a number from zero to one, and then it is that number. -/
theorem ofText?_eq_some_iff (text : Text) (quality : Quality) :
    ofText? text = some quality ↔
      ∃ number, Binary.ofText? .single text = some number ∧ number.isFraction = true ∧
        Binary.compare? number quality.number = some .eq := by
  simp only [ofText?, Option.bind_eq_some_iff, ofBinary?_eq_some_iff]

/-- There is a quality for every number from zero to one. -/
theorem exists_of_isFraction {number : Binary} (fraction : number.isFraction = true) :
    ∃ quality : Quality, Binary.compare? number quality.number = some .eq := by
  cases number with
  | nan => simp [Binary.isFraction, Binary.compare?] at fraction
  | infinite negative => cases negative <;> simp [Binary.isFraction, Binary.compare?] at fraction
  | finite negative units =>
      obtain ⟨nonneg, fits⟩ := (Binary.isFraction_finite ..).mp fraction
      obtain ⟨value, same⟩ := Int.eq_ofNat_of_zero_le nonneg
      have bound : value ≤ Quality.one.units := by omega
      exact ⟨⟨value, bound⟩, (Binary.compare?_eq_eq_iff ..).mpr same⟩

theorem ofText?_eq_none_iff (text : Text) :
    ofText? text = none ↔
      ∀ number, Binary.ofText? .single text = some number → number.isFraction = false := by
  rw [Option.eq_none_iff_forall_ne_some]
  constructor
  · intro none number spells
    rw [Bool.eq_false_iff]
    intro fraction
    obtain ⟨quality, same⟩ := exists_of_isFraction fraction
    exact none quality ((ofText?_eq_some_iff ..).mpr ⟨number, spells, fraction, same⟩)
  · intro noFraction quality made
    obtain ⟨number, spells, fraction, -⟩ := (ofText?_eq_some_iff ..).mp made
    rw [noFraction number spells] at fraction
    cases fraction

theorem given_iff (text : Option Text) (quality : Quality) :
    Given text quality ↔
      (text.map fun value => (ofText? value).getD .one).getD .one = quality := by
  constructor
  · intro given
    cases given with
    | absent => rfl
    | number spells fraction same =>
        have made := (ofText?_eq_some_iff ..).mpr ⟨_, spells, fraction, same⟩
        rw [Option.map_some, made, Option.getD_some, Option.getD_some]
    | other noFraction =>
        have none := (ofText?_eq_none_iff _).mpr noFraction
        rw [Option.map_some, none, Option.getD_some, Option.getD_none]
  · rintro rfl
    cases text with
    | none => exact .absent
    | some text =>
        cases made : ofText? text with
        | none =>
            simp only [Option.map_some, made, Option.getD_some, Option.getD_none]
            exact .other ((ofText?_eq_none_iff _).mp made)
        | some quality =>
            obtain ⟨number, spells, fraction, same⟩ := (ofText?_eq_some_iff ..).mp made
            simp only [Option.map_some, made, Option.getD_some]
            exact .number spells fraction same

end Quality

namespace MediaRange

/-! ## Parts, pieces and names -/

/-- `written` is the part `part` with blanks around it.  A part has no blank at its ends, and no
mark at which elements or pieces are cut. -/
structure Spells (written part : Text) : Prop where
  trimsTo : Text.TrimsTo Text.isBlank written part
  noComma : ',' ∉ part
  noSemicolon : ';' ∉ part

section Spells

variable {written part : Text}

theorem spells_iff :
    Spells written part ↔ Text.trim written = part ∧ ',' ∉ part ∧ ';' ∉ part := by
  constructor
  · rintro ⟨trimsTo, noComma, noSemicolon⟩
    exact ⟨trimsTo.trimBy_eq, noComma, noSemicolon⟩
  · rintro ⟨rfl, noComma, noSemicolon⟩
    exact ⟨Text.trimsTo_trimBy _ written, noComma, noSemicolon⟩

theorem Spells.trim (spells : Spells written part) : Text.trim written = part :=
  (spells_iff.mp spells).1

/-- A mark that is no blank stands in a part or nowhere. -/
theorem Spells.notMem (spells : Spells written part) {mark : Char}
    (solid : Text.isBlank mark = false) (absent : mark ∉ part) : mark ∉ written := by
  obtain ⟨left, right, rfl, leftBlank, rightBlank⟩ := spells.trimsTo.around
  simp [absent, Text.notMem_of_blanks leftBlank solid, Text.notMem_of_blanks rightBlank solid]

theorem spells_trim {t : Text} (noComma : ',' ∉ t) (noSemicolon : ';' ∉ t) :
    Spells t (Text.trim t) :=
  spells_iff.mpr ⟨rfl, fun mem => noComma (Text.trim_subset t mem),
    fun mem => noSemicolon (Text.trim_subset t mem)⟩

end Spells

/-- What stands behind a semicolon. -/
inductive Piece where
  | parameter (name value : Text)
  | quality (text : Text)
  /-- What is no parameter, and does not count. -/
  | nothing

/-- The parameter that a piece is, the quality being one of the name `q`. -/
def Piece.parameter? : Piece → Option (Text × Text)
  | .parameter name value => some (name, value)
  | .quality text => some (['q'], text)
  | .nothing => none

/-- A parameter is a name, the first equals sign, and a value; that of the name `q` is the
quality. -/
inductive PieceReads : Text → Piece → Prop where
  | parameter {left right name value : Text} (named : Spells left name)
      (valued : Spells right value) (noEquals : '=' ∉ name) (notQuality : name ≠ ['q']) :
      PieceReads (left ++ '=' :: right) (.parameter name value)
  | quality {left right text : Text} (named : Spells left ['q']) (valued : Spells right text) :
      PieceReads (left ++ '=' :: right) (.quality text)
  | nothing {t : Text} (noComma : ',' ∉ t) (noSemicolon : ';' ∉ t) (noEquals : '=' ∉ t) :
      PieceReads t .nothing

section Pieces

theorem parameter?_of_cut {left right name value : Text} (named : Spells left name)
    (valued : Spells right value) (noEquals : '=' ∉ name) :
    parameter? (left ++ '=' :: right) = some (name, value) := by
  rw [parameter?, Text.splitOnce_append _ _ _ (named.notMem (by decide) noEquals)]
  simp only [Option.map_some, named.trim, valued.trim]

theorem PieceReads.parameter?_eq {t : Text} {piece : Piece} (reads : PieceReads t piece) :
    parameter? t = piece.parameter? := by
  cases reads with
  | parameter named valued noEquals _ => exact parameter?_of_cut named valued noEquals
  | quality named valued => exact parameter?_of_cut named valued (by decide)
  | nothing _ _ noEquals =>
      rw [parameter?, (Text.splitOnce_eq_none_iff ..).mpr noEquals]
      rfl

/-- A piece is one piece of one element. -/
theorem PieceReads.notMem {t : Text} {piece : Piece} (reads : PieceReads t piece) :
    ',' ∉ t ∧ ';' ∉ t := by
  have cut : ∀ {left right name value : Text}, Spells left name → Spells right value →
      ',' ∉ left ++ '=' :: right ∧ ';' ∉ left ++ '=' :: right := by
    intro left right name value named valued
    simp [named.notMem (by decide) named.noComma, named.notMem (by decide) named.noSemicolon,
      valued.notMem (by decide) valued.noComma, valued.notMem (by decide) valued.noSemicolon]
  cases reads with
  | parameter named valued => exact cut named valued
  | quality named valued => exact cut named valued
  | nothing noComma noSemicolon _ => exact ⟨noComma, noSemicolon⟩

theorem exists_pieceReads {t : Text} (noComma : ',' ∉ t) (noSemicolon : ';' ∉ t) :
    ∃ piece, PieceReads t piece := by
  by_cases mem : '=' ∈ t
  · obtain ⟨left, right, rfl, single⟩ := List.eq_append_cons_of_mem mem
    simp only [List.mem_append, List.mem_cons, not_or] at noComma noSemicolon
    have named := spells_trim noComma.1 noSemicolon.1
    have valued := spells_trim noComma.2.2 noSemicolon.2.2
    by_cases quality : Text.trim left = ['q']
    · rw [quality] at named
      exact ⟨_, .quality named valued⟩
    · exact ⟨_, .parameter named valued (fun mem => single (Text.trim_subset left mem)) quality⟩
  · exact ⟨_, .nothing noComma noSemicolon mem⟩

/-- Texts are pieces when they are pieces of one element. -/
theorem exists_pieces_iff (texts : List Text) :
    (∃ pieces, List.Forall₂ PieceReads texts pieces) ↔ ∀ t ∈ texts, ',' ∉ t ∧ ';' ∉ t := by
  constructor
  · rintro ⟨pieces, read⟩
    induction read with
    | nil => simp
    | cons reads _ ih => exact List.forall_mem_cons.mpr ⟨reads.notMem, ih⟩
  · intro single
    induction texts with
    | nil => exact ⟨[], .nil⟩
    | cons t texts ih =>
        obtain ⟨first, others⟩ := List.forall_mem_cons.mp single
        obtain ⟨piece, reads⟩ := exists_pieceReads first.1 first.2
        obtain ⟨pieces, read⟩ := ih others
        exact ⟨piece :: pieces, .cons reads read⟩

/-- The parameters among the pieces, in order. -/
def parametersOf : List Piece → List (Text × Text)
  | [] => []
  | .parameter name value :: rest => (name, value) :: parametersOf rest
  | .quality _ :: rest => parametersOf rest
  | .nothing :: rest => parametersOf rest

/-- The texts for the quality among the pieces, in order. -/
def qualitiesOf : List Piece → List Text
  | [] => []
  | .parameter _ _ :: rest => qualitiesOf rest
  | .quality text :: rest => text :: qualitiesOf rest
  | .nothing :: rest => qualitiesOf rest

/-- Texts that read as pieces have their parameters and their texts for the quality. -/
theorem parameters_of_pieces {texts : List Text} {pieces : List Piece}
    (read : List.Forall₂ PieceReads texts pieces) :
    ((texts.filterMap parameter?).filter fun p => !isQuality p) = parametersOf pieces ∧
      ((texts.filterMap parameter?).filter isQuality).map Prod.snd = qualitiesOf pieces := by
  induction read with
  | nil => exact ⟨rfl, rfl⟩
  | cons reads _ ih =>
      obtain ⟨parameters, qualities⟩ := ih
      rw [List.filterMap_cons, reads.parameter?_eq]
      cases reads with
      | @parameter _ _ name value _ _ _ notQuality =>
          have other : isQuality (name, value) = false := beq_eq_false_iff_ne.mpr notQuality
          simp [Piece.parameter?, other, parametersOf, qualitiesOf, parameters, qualities]
      | @quality _ _ text =>
          have same : isQuality (['q'], text) = true := beq_self_eq_true _
          simp [Piece.parameter?, same, parametersOf, qualitiesOf, parameters, qualities]
      | nothing => exact ⟨parameters, qualities⟩

/-- The last of the texts for the quality counts. -/
theorem given_qualityOf {texts : List Text} {pieces : List Piece}
    (read : List.Forall₂ PieceReads texts pieces) (quality : Quality) :
    Quality.Given (qualitiesOf pieces).getLast? quality ↔
      qualityOf (texts.filterMap parameter?) = quality := by
  rw [Quality.given_iff, ← (parameters_of_pieces read).2, List.getLast?_map, qualityOf]
  cases ((texts.filterMap parameter?).filter isQuality).getLast? <;> rfl

end Pieces

/-- Two names with a slash between them, or a lone star. -/
inductive NamesRead : Text → Text × Text → Prop where
  | pair {left right type subtype : Text} (typed : Spells left type)
      (subtyped : Spells right subtype) (someType : type ≠ []) (someSubtype : subtype ≠ [])
      (noSlash : '/' ∉ type) : NamesRead (left ++ '/' :: right) (type, subtype)
  | star {head : Text} (alone : Spells head ['*']) : NamesRead head (['*'], ['*'])

/-- No slash and no lone star, or a slash with nothing but blanks on one side of it. -/
inductive Nameless : Text → Prop where
  | noSlash {head : Text} (noSlash : '/' ∉ head) (notStar : Text.trim head ≠ ['*']) :
      Nameless head
  | halfEmpty {left right : Text} (noSlash : '/' ∉ left)
      (empty : (∀ c ∈ left, Text.isBlank c = true) ∨ ∀ c ∈ right, Text.isBlank c = true) :
      Nameless (left ++ '/' :: right)

section Names

/-- The names are what is left and right of the first slash, if there is something. -/
theorem names?_trim_cut {left : Text} (single : '/' ∉ left) (right : Text) :
    names? (Text.trim (left ++ '/' :: right)) =
      if Text.trim left = [] ∨ Text.trim right = [] then none
      else some (Text.trim left, Text.trim right) := by
  have still : '/' ∉ Text.trimStartBy Text.isBlank left :=
    fun mem => single ((List.dropWhile_sublist _).subset mem)
  have notStar : Text.trimStartBy Text.isBlank left ++
      '/' :: Text.trimEndBy Text.isBlank right ≠ ['*'] := by
    intro star
    have slash := congrArg (fun t => '/' ∈ t) star
    simp at slash
  -- Trimming the whole leaves the blanks next to the slash, so each half is trimmed once more.
  rw [Text.trim_cut (by decide), names?, if_neg notStar, Text.splitOnce_append _ _ _ still]
  simp only [Text.trim_trimStartBy, Text.trim_trimEndBy, Bool.or_eq_true, List.isEmpty_iff]

theorem names?_of_namesRead {head : Text} {names : Text × Text} (read : NamesRead head names) :
    names? (Text.trim head) = some names := by
  cases read with
  | pair typed subtyped someType someSubtype noSlash =>
      rw [names?_trim_cut (typed.notMem (by decide) noSlash), typed.trim, subtyped.trim, if_neg]
      simp [someType, someSubtype]
  | star alone =>
      rw [alone.trim]
      rfl

theorem names?_of_nameless {head : Text} (nameless : Nameless head) :
    names? (Text.trim head) = none := by
  cases nameless with
  | noSlash noSlash notStar =>
      have still : '/' ∉ Text.trim head := fun mem => noSlash (Text.trim_subset head mem)
      rw [names?, if_neg notStar, (Text.splitOnce_eq_none_iff ..).mpr still]
  | halfEmpty noSlash empty =>
      rw [← Text.trim_eq_nil_iff, ← Text.trim_eq_nil_iff] at empty
      rw [names?_trim_cut noSlash, if_pos empty]

/-- What stands before the first semicolon has names or it has none. -/
theorem namesRead_or_nameless {head : Text} (noComma : ',' ∉ head) (noSemicolon : ';' ∉ head) :
    (∃ type subtype, NamesRead head (type, subtype)) ∨ Nameless head := by
  by_cases mem : '/' ∈ head
  · obtain ⟨left, right, rfl, single⟩ := List.eq_append_cons_of_mem mem
    by_cases empty : Text.trim left = [] ∨ Text.trim right = []
    · rw [Text.trim_eq_nil_iff, Text.trim_eq_nil_iff] at empty
      exact .inr (.halfEmpty single empty)
    · simp only [List.mem_append, List.mem_cons, not_or] at noComma noSemicolon empty
      exact .inl ⟨_, _, .pair (spells_trim noComma.1 noSemicolon.1)
        (spells_trim noComma.2.2 noSemicolon.2.2) empty.1 empty.2
        fun mem => single (Text.trim_subset left mem)⟩
  · by_cases star : Text.trim head = ['*']
    · exact .inl ⟨_, _, .star (star ▸ spells_trim noComma noSemicolon)⟩
    · exact .inr (.noSlash mem star)

theorem NamesRead.notMem {head : Text} {names : Text × Text} (read : NamesRead head names) :
    ',' ∉ head ∧ ';' ∉ head := by
  cases read with
  | pair typed subtyped =>
      simp [typed.notMem (by decide) typed.noComma, typed.notMem (by decide) typed.noSemicolon,
        subtyped.notMem (by decide) subtyped.noComma,
        subtyped.notMem (by decide) subtyped.noSemicolon]
  | star alone =>
      exact ⟨alone.notMem (by decide) alone.noComma, alone.notMem (by decide) alone.noSemicolon⟩

end Names

/-! ## Elements -/

/-- An element that is a range: its names, and behind each semicolon a piece. -/
inductive ElementReads : Text → MediaRange → Prop where
  | intro {head type subtype : Text} {texts : List Text} {pieces : List Piece} {quality : Quality}
      (names : NamesRead head (type, subtype)) (read : List.Forall₂ PieceReads texts pieces)
      (given : Quality.Given (qualitiesOf pieces).getLast? quality) :
      ElementReads (Text.join [';'] (head :: texts))
        { type, subtype, parameters := parametersOf pieces, quality }

/-- An element that is no range, by what stands before its first semicolon. -/
structure ReadsNothing (element : Text) : Prop where
  noComma : ',' ∉ element
  nameless : Nameless (element.takeWhile (· ≠ ';'))

/-- Elements that are the ranges in order, and between them any that are no ranges. -/
inductive ElementsRead : List Text → List MediaRange → Prop where
  | nil : ElementsRead [] []
  | range {element : Text} {elements : List Text} {range : MediaRange} {ranges : List MediaRange}
      (reads : ElementReads element range) (more : ElementsRead elements ranges) :
      ElementsRead (element :: elements) (range :: ranges)
  | nothing {element : Text} {elements : List Text} {ranges : List MediaRange}
      (nothing : ReadsNothing element) (more : ElementsRead elements ranges) :
      ElementsRead (element :: elements) ranges

section Elements

theorem ElementReads.noComma {element : Text} {range : MediaRange}
    (reads : ElementReads element range) : ',' ∉ element := by
  cases reads with
  | intro names read _ =>
      have singles := (exists_pieces_iff _).mp ⟨_, read⟩
      refine Text.notMem_join (by decide) (List.forall_mem_cons.mpr ⟨names.notMem.1, ?_⟩)
      exact fun t mem => (singles t mem).1

theorem ofText?_of_elementReads {element : Text} {range : MediaRange}
    (reads : ElementReads element range) : ofText? element = some range := by
  cases reads with
  | @intro head type subtype texts pieces quality names read given =>
      have singles := (exists_pieces_iff _).mp ⟨_, read⟩
      have cut : (Text.join [';'] (head :: texts)).splitOn ';' = head :: texts :=
        List.splitOn_intercalate ';'
          (List.forall_mem_cons.mpr ⟨names.notMem.2, fun t mem => (singles t mem).2⟩) (by simp)
      rw [ofText?_of_splitOn cut, names?_of_namesRead names, Option.map_some, assemble,
        (given_qualityOf read quality).mp given, (parameters_of_pieces read).1]

theorem ofText?_of_readsNothing {element : Text} (nothing : ReadsNothing element) :
    ofText? element = none := by
  obtain ⟨pieces, cut⟩ := Text.exists_splitOn_eq ';' element
  rw [ofText?_of_splitOn cut, names?_of_nameless nothing.nameless]
  rfl

/-- An element is a range or it is none. -/
theorem elementReads_or_readsNothing {element : Text} (noComma : ',' ∉ element) :
    (∃ range, ElementReads element range) ∨ ReadsNothing element := by
  obtain ⟨texts, cut⟩ := Text.exists_splitOn_eq ';' element
  have whole : Text.join [';'] (element.takeWhile (· ≠ ';') :: texts) = element := by
    rw [← cut, Text.join, List.intercalate_splitOn]
  have single : ∀ t ∈ element.takeWhile (· ≠ ';') :: texts, ',' ∉ t ∧ ';' ∉ t := by
    rw [← cut]
    exact fun t mem => ⟨fun comma => noComma (Text.subset_of_mem_splitOn ';' mem comma),
      Text.notMem_of_mem_splitOn ';' mem⟩
  obtain ⟨first, others⟩ := List.forall_mem_cons.mp single
  rcases namesRead_or_nameless first.1 first.2 with ⟨type, subtype, names⟩ | nameless
  · obtain ⟨pieces, read⟩ := (exists_pieces_iff texts).mpr others
    have given := (given_qualityOf read _).mpr rfl
    have reads := ElementReads.intro names read given
    rw [whole] at reads
    exact .inl ⟨_, reads⟩
  · exact .inr ⟨noComma, nameless⟩

/-! ## Headers -/

theorem ElementsRead.noComma {elements : List Text} {ranges : List MediaRange}
    (read : ElementsRead elements ranges) : ∀ element ∈ elements, ',' ∉ element := by
  induction read with
  | nil => simp
  | range reads _ ih => exact List.forall_mem_cons.mpr ⟨reads.noComma, ih⟩
  | nothing nothing _ ih => exact List.forall_mem_cons.mpr ⟨nothing.noComma, ih⟩

theorem filterMap_of_elementsRead {elements : List Text} {ranges : List MediaRange}
    (read : ElementsRead elements ranges) : elements.filterMap ofText? = ranges := by
  induction read with
  | nil => rfl
  | range reads _ ih => rw [List.filterMap_cons_some (ofText?_of_elementReads reads), ih]
  | nothing nothing _ ih => rw [List.filterMap_cons_none (ofText?_of_readsNothing nothing), ih]

theorem exists_elementsRead {elements : List Text} (noComma : ∀ element ∈ elements, ',' ∉ element) :
    ∃ ranges, ElementsRead elements ranges := by
  induction elements with
  | nil => exact ⟨[], .nil⟩
  | cons element elements ih =>
      obtain ⟨first, others⟩ := List.forall_mem_cons.mp noComma
      obtain ⟨ranges, read⟩ := ih others
      rcases elementReads_or_readsNothing first with ⟨range, reads⟩ | nothing
      · exact ⟨range :: ranges, .range reads read⟩
      · exact ⟨ranges, .nothing nothing read⟩

theorem listOfAccept_of_elementsRead {elements : List Text} {ranges : List MediaRange}
    (read : ElementsRead elements ranges) :
    listOfAccept (Text.join [','] elements) = ranges := by
  rw [listOfAccept_join_of_single read.noComma, filterMap_of_elementsRead read]

/-- **A header is read as it is written.**  Its ranges are the given ones, in order, exactly when it
is elements joined by commas that are written for these ranges: each element for the next range,
with its type, its subtype, its parameters in order and the quality that the last text for it gives,
or for none. -/
theorem listOfAccept_eq_iff_elementsRead (accept : Text) (ranges : List MediaRange) :
    listOfAccept accept = ranges ↔
      ∃ elements, accept = Text.join [','] elements ∧ ElementsRead elements ranges := by
  constructor
  · rintro rfl
    -- The pieces between the commas are written for something, and this is what is read of them.
    have whole : Text.join [','] (accept.splitOn ',') = accept := List.intercalate_splitOn ','
    obtain ⟨ranges, read⟩ :=
      exists_elementsRead fun element mem => Text.notMem_of_mem_splitOn ',' mem
    have same := listOfAccept_of_elementsRead read
    rw [whole] at same
    exact ⟨_, whole.symm, same ▸ read⟩
  · rintro ⟨elements, rfl, read⟩
    exact listOfAccept_of_elementsRead read

/-- Blanks around every mark, a value with an equals sign, a piece that is no parameter, an element
that is no range, and a range of which the last quality is no number. -/
theorem listOfAccept_eq_iff_elementsRead_noisy :
    let first := Text.join [';'] [" text / html ", " level = 1=2 ", "x", " q = 0.5 "]
    let last := Text.join [';'] ["\ta/b", "q=0", "q=x"]
    let half : Quality := ⟨Nat.pow 2 148, by decide⟩
    ElementReads first ⟨"text", "html", [("level", "1=2")], half⟩ ∧
      ReadsNothing "html;q=0" ∧ ElementReads last ⟨"a", "b", [], .one⟩ ∧
      listOfAccept (Text.join [','] [first, "html;q=0", last]) =
        [⟨"text", "html", [("level", "1=2")], half⟩, ⟨"a", "b", [], .one⟩] := by
  intro first last half
  have firstReads : ElementReads first ⟨"text", "html", [("level", "1=2")], half⟩ := by
    have typed : Spells " text " "text" := spells_iff.mpr (by decide)
    have subtyped : Spells " html " "html" := spells_iff.mpr (by decide)
    have names : NamesRead " text / html " ("text", "html") :=
      .pair typed subtyped (by decide) (by decide) (by decide)
    have level : PieceReads " level = 1=2 " (.parameter "level" "1=2") := by
      have named : Spells " level " "level" := spells_iff.mpr (by decide)
      have valued : Spells " 1=2 " "1=2" := spells_iff.mpr (by decide)
      exact .parameter named valued (by decide) (by decide)
    have other : PieceReads "x" .nothing := .nothing (by decide) (by decide) (by decide)
    have quality : PieceReads " q = 0.5 " (.quality "0.5") := by
      have named : Spells " q " "q" := spells_iff.mpr (by decide)
      have valued : Spells " 0.5 " "0.5" := spells_iff.mpr (by decide)
      exact .quality named valued
    exact .intro names (.cons level (.cons other (.cons quality .nil)))
      (.number rfl (by decide +kernel) (by decide +kernel))
  have nothing : ReadsNothing "html;q=0" := ⟨by decide, .noSlash (by decide) (by decide)⟩
  have lastReads : ElementReads last ⟨"a", "b", [], .one⟩ := by
    have typed : Spells "\ta" "a" := spells_iff.mpr (by decide)
    have subtyped : Spells "b" "b" := spells_iff.mpr (by decide)
    have names : NamesRead "\ta/b" ("a", "b") :=
      .pair typed subtyped (by decide) (by decide) (by decide)
    have named : Spells "q" "q" := spells_iff.mpr (by decide)
    have zero : Spells "0" "0" := spells_iff.mpr (by decide)
    have noNumber : Spells "x" "x" := spells_iff.mpr (by decide)
    refine .intro names (.cons (.quality named zero) (.cons (.quality named noNumber) .nil)) ?_
    exact .other (by decide +kernel)
  exact ⟨firstReads, nothing, lastReads, (listOfAccept_eq_iff_elementsRead ..).mpr
    ⟨_, rfl, .range firstReads (.nothing nothing (.range lastReads .nil))⟩⟩

end Elements

end MediaRange
end Multipage
