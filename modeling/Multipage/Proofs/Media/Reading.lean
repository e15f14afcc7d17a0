/-
# Multipage.Proofs.Media.Reading -- how a header is read, element by element

A range is read from its names and from the pieces behind the semicolons
(`MediaRange.ofText?_of_splitOn`), whatever blanks stand around it (`MediaRange.ofText?_trim`), and
a header from its elements, each by itself (`MediaRange.listOfAccept_comma`,
`MediaRange.listOfAccept_join`).  What reading uses is part of the text, so a mark that does not
stand in the text stands in no name (`MediaRange.names_subset_of_ofText?`).
-/
import Multipage.Media.Range
import Multipage.Proofs.Text.Cut
import Mathlib.Data.List.Basic

namespace Multipage.MediaRange

set_option autoImplicit false

/-! ## One element -/

theorem names?_eq_some_iff (t type subtype : Text) :
    names? t = some (type, subtype) ↔
      t = ['*'] ∧ type = ['*'] ∧ subtype = ['*'] ∨
      t ≠ ['*'] ∧ type ≠ [] ∧ subtype ≠ [] ∧ ∃ before after, t = before ++ '/' :: after ∧
        '/' ∉ before ∧ Text.trim before = type ∧ Text.trim after = subtype := by
  by_cases star : t = ['*']
  · simp [names?, star, eq_comm]
  rw [names?, if_neg star]
  constructor
  · intro named
    refine .inr ⟨star, ?_⟩
    split at named
    · simp at named
    · rename_i before after cut
      obtain ⟨rfl, single⟩ := (Text.splitOnce_eq_some_iff ..).mp cut
      simp only [Option.ite_none_left_eq_some, Bool.or_eq_true, not_or, List.isEmpty_iff,
        Option.some_inj, Prod.mk.injEq] at named
      obtain ⟨⟨someType, someSubtype⟩, rfl, rfl⟩ := named
      exact ⟨someType, someSubtype, before, after, rfl, single, rfl, rfl⟩
  · rintro (⟨lone, -⟩ | ⟨-, someType, someSubtype, before, after, rfl, single, rfl, rfl⟩)
    · exact absurd lone star
    · rw [Text.splitOnce_append _ _ _ single]
      simp [someType, someSubtype]

/-- Two trimmed names with a slash between them are read back. -/
theorem names?_slash {type subtype : Text} (someType : type ≠ []) (someSubtype : subtype ≠ [])
    (trimmedType : Text.trim type = type) (trimmedSubtype : Text.trim subtype = subtype)
    (single : '/' ∉ type) :
    names? (Text.trim (type ++ '/' :: subtype)) = some (type, subtype) := by
  have whole : Text.trim (type ++ '/' :: subtype) = type ++ '/' :: subtype := by
    have ends := Text.trim_append ['/'] someType someSubtype trimmedType
      trimmedSubtype
    simpa using ends
  have notStar : type ++ '/' :: subtype ≠ ['*'] := by
    intro star
    have slash : '/' ∈ type ++ '/' :: subtype := by simp
    rw [star] at slash
    exact absurd slash (by decide)
  rw [whole]
  exact (names?_eq_some_iff ..).mpr (.inr ⟨notStar, someType, someSubtype, type, subtype, rfl,
    single, trimmedType, trimmedSubtype⟩)

/-- The range of the names, with the parameters that the pieces give. -/
def assemble (names : Text × Text) (pieces : List Text) : MediaRange :=
  { type := names.1, subtype := names.2
    parameters := (pieces.filterMap parameter?).filter fun p => !isQuality p
    quality := qualityOf (pieces.filterMap parameter?) }

theorem ofText?_of_splitOn {t head : Text} {pieces : List Text}
    (cut : t.splitOn ';' = head :: pieces) :
    ofText? t = (names? (Text.trim head)).map fun names => assemble names pieces := by
  rw [ofText?, cut]
  rfl

theorem ofText?_append {head : Text} (single : ';' ∉ head) (more : Text) :
    ofText? (head ++ ';' :: more) =
      (names? (Text.trim head)).map fun names => assemble names (more.splitOn ';') :=
  ofText?_of_splitOn (List.splitOn_append_cons_self_of_not_mem single more)

theorem ofText?_of_notMem {t : Text} (single : ';' ∉ t) :
    ofText? t = (names? (Text.trim t)).map fun names => assemble names [] :=
  ofText?_of_splitOn (List.splitOn_eq_singleton single)

theorem ofText?_nil : ofText? [] = none := by decide

/-! ### Blanks around an element -/

theorem parameter?_append_blanks {blanks : Text} (blank : ∀ c ∈ blanks, Text.isBlank c = true)
    (piece : Text) : parameter? (piece ++ blanks) = parameter? piece := by
  have noMark : '=' ∉ blanks := Text.notMem_of_blanks blank (by decide)
  by_cases mem : '=' ∈ piece
  · obtain ⟨name, value, rfl, single⟩ := List.eq_append_cons_of_mem mem
    rw [List.append_assoc, List.cons_append, parameter?, parameter?,
      Text.splitOnce_append _ _ _ single, Text.splitOnce_append _ _ _ single]
    simp only [Option.map_some, Text.trim_append_blanks blank]
  · have still : '=' ∉ piece ++ blanks := by simp [mem, noMark]
    rw [parameter?, parameter?, (Text.splitOnce_eq_none_iff _ _).mpr mem,
      (Text.splitOnce_eq_none_iff _ _).mpr still]

/-- The blanks at the end belong to the last piece, whose value is trimmed. -/
theorem parameters_append_blanks {blanks : Text} (blank : ∀ c ∈ blanks, Text.isBlank c = true)
    (pieces : Text) :
    ((pieces ++ blanks).splitOn ';').filterMap parameter? =
      (pieces.splitOn ';').filterMap parameter? := by
  have noMark : ';' ∉ blanks := Text.notMem_of_blanks blank (by decide)
  induction pieces using Text.cut_induction ';' with
  | last piece single =>
      have still : ';' ∉ piece ++ blanks := by simp [single, noMark]
      rw [List.splitOn_eq_singleton single, List.splitOn_eq_singleton still]
      simp only [List.filterMap_cons, parameter?_append_blanks blank]
  | cut piece more single ih =>
      rw [List.append_assoc, List.cons_append,
        List.splitOn_append_cons_self_of_not_mem single,
        List.splitOn_append_cons_self_of_not_mem single, List.filterMap_cons, List.filterMap_cons,
        ih]

/-- An element is read with or without the blanks around it. -/
theorem ofText?_trim (t : Text) : ofText? (Text.trim t) = ofText? t := by
  obtain ⟨⟨left, right, cut, leftBlank, rightBlank⟩, -, -⟩ := Text.trimsTo_trimBy Text.isBlank t
  rw [show Text.trimBy Text.isBlank t = Text.trim t from rfl] at cut
  generalize Text.trim t = s at cut
  subst cut
  have noLeft : ';' ∉ left := Text.notMem_of_blanks leftBlank (by decide)
  have noRight : ';' ∉ right := Text.notMem_of_blanks rightBlank (by decide)
  by_cases mem : ';' ∈ s
  · obtain ⟨head, more, rfl, single⟩ := List.eq_append_cons_of_mem mem
    have singleLeft : ';' ∉ left ++ head := by simp [noLeft, single]
    have regroup : left ++ (head ++ ';' :: more) ++ right =
        (left ++ head) ++ ';' :: (more ++ right) := by simp
    rw [regroup, ofText?_append single, ofText?_append singleLeft,
      Text.trim_blanks_append leftBlank]
    simp only [assemble, parameters_append_blanks rightBlank]
  · have still : ';' ∉ left ++ s ++ right := by simp [noLeft, mem, noRight]
    rw [ofText?_of_notMem mem, ofText?_of_notMem still, Text.trim_surround leftBlank rightBlank]

/-! ### Names -/

/-- The names stand in the text: in its first piece, and in no other. -/
theorem names_subset_of_ofText? {t : Text} {range : MediaRange}
    (read : ofText? t = some range) :
    (range.type ⊆ t ∧ range.subtype ⊆ t) ∧ ';' ∉ range.type ∧ ';' ∉ range.subtype := by
  have names : ∀ {head type subtype : Text}, names? (Text.trim head) = some (type, subtype) →
      type ⊆ head ∧ subtype ⊆ head := by
    intro head type subtype named
    have inHead : Text.trim head ⊆ head := Text.trim_subset head
    rcases (names?_eq_some_iff ..).mp named with
      ⟨star, rfl, rfl⟩ | ⟨-, -, -, before, after, cut, -, rfl, rfl⟩
    · rw [star] at inHead
      exact ⟨inHead, inHead⟩
    · rw [cut] at inHead
      refine ⟨fun c mem => inHead ?_, fun c mem => inHead ?_⟩
      · exact List.mem_append_left _ (Text.trim_subset _ mem)
      · exact List.mem_append_right _ (List.mem_cons_of_mem _ (Text.trim_subset _ mem))
  have whole : ∀ {head : Text} {pieces : List Text}, ';' ∉ head → head ⊆ t →
      (names? (Text.trim head)).map (fun names => assemble names pieces) = some range →
      (range.type ⊆ t ∧ range.subtype ⊆ t) ∧ ';' ∉ range.type ∧ ';' ∉ range.subtype := by
    intro head pieces single inText made
    obtain ⟨⟨type, subtype⟩, named, rfl⟩ := Option.map_eq_some_iff.mp made
    obtain ⟨inType, inSubtype⟩ := names named
    exact ⟨⟨fun c mem => inText (inType mem), fun c mem => inText (inSubtype mem)⟩,
      fun mem => single (inType mem), fun mem => single (inSubtype mem)⟩
  by_cases mem : ';' ∈ t
  · obtain ⟨head, more, rfl, single⟩ := List.eq_append_cons_of_mem mem
    rw [ofText?_append single] at read
    exact whole single (fun c mem => List.mem_append_left _ mem) read
  · rw [ofText?_of_notMem mem] at read
    exact whole mem (fun c mem => mem) read

/-! ## The elements of a header -/

/-- The elements of a header, without the blanks around them. -/
def elements (accept : Text) : List Text := (accept.splitOn ',').map Text.trim

theorem listOfAccept_eq (accept : Text) :
    listOfAccept accept = (elements accept).filterMap ofText? := by
  rw [listOfAccept, elements, List.filterMap_filter]
  refine List.filterMap_congr fun element _ => ?_
  cases element with
  | nil => rw [ofText?_nil]; rfl
  | cons => rfl

theorem listOfAccept_of_notMem {element : Text} (single : ',' ∉ element) :
    listOfAccept element = (ofText? (Text.trim element)).toList := by
  rw [listOfAccept_eq, elements, List.splitOn_eq_singleton single, List.map_singleton]
  cases read : ofText? (Text.trim element) <;> simp [read]

/-- The elements before a comma and those after it are read apart. -/
theorem listOfAccept_append {element : Text} (single : ',' ∉ element) (more : Text) :
    listOfAccept (element ++ ',' :: more) = listOfAccept element ++ listOfAccept more := by
  rw [listOfAccept_eq, listOfAccept_eq, listOfAccept_eq, ← List.filterMap_append, elements,
    List.splitOn_append_cons_self_of_not_mem single, elements, List.splitOn_eq_singleton single]
  rfl

/-- What stands on the two sides of a comma is read apart. -/
theorem listOfAccept_comma (accept more : Text) :
    listOfAccept (accept ++ ',' :: more) = listOfAccept accept ++ listOfAccept more := by
  induction accept using Text.cut_induction ',' with
  | last element single => exact listOfAccept_append single more
  | cut element rest single ih =>
      rw [List.append_assoc, List.cons_append, listOfAccept_append single, ih,
        listOfAccept_append single, List.append_assoc]

/-- A header that is joined by commas has the ranges of its parts, in their order. -/
theorem listOfAccept_join (parts : List Text) :
    listOfAccept (Text.join [','] parts) = parts.flatMap listOfAccept := by
  induction parts with
  | nil => decide
  | cons part rest ih =>
      cases rest with
      | nil => simp [Text.join]
      | cons next more =>
          have cut : Text.join [','] (part :: next :: more) =
              part ++ ',' :: Text.join [','] (next :: more) := by
            rw [Text.join, List.intercalate_cons_cons, List.append_assoc]
            rfl
          rw [List.flatMap_cons, cut, listOfAccept_comma, ih]

/-- A part without a comma is one element, and has a range when it can be read. -/
theorem listOfAccept_join_of_single {elements : List Text} (single : ∀ e ∈ elements, ',' ∉ e) :
    listOfAccept (Text.join [','] elements) = elements.filterMap ofText? := by
  rw [listOfAccept_join, List.filterMap_eq_flatMap_toList]
  refine List.flatMap_congr fun element mem => ?_
  rw [listOfAccept_of_notMem (single element mem), ofText?_trim]

end Multipage.MediaRange
