/-
# Multipage.Proofs.Specline.Grammar -- the lines that are speclines

The words of a specline are matched as a whole against two patterns: `Pattern.mediaType` and
`Pattern.rendererReference`.  Both are languages, built from characters of given ranges, repetition
and sequence, and the checks of the library decide them (`Pattern.mem_mediaType_iff`,
`Pattern.mem_rendererReference_iff`).  So the lines that are read, and why the others are refused,
is said by words and patterns alone (`Specline.ofText_reads_grammar`), and each line that names a
renderer has one form with one blank in it that says the same (`Specline.canonical`).
-/
import Mathlib.Computability.Language
import Multipage.Proofs.Media.Declared
import Multipage.Proofs.Specline
import Multipage.Proofs.Text.Words

namespace Multipage

set_option autoImplicit false

/-! ## The patterns -/

namespace Pattern

/-- One character within one of the ranges. -/
def oneOf (ranges : List (Char × Char)) : Language Char :=
  {t | ∃ c, t = [c] ∧ ∃ range ∈ ranges, range.1 ≤ c ∧ c ≤ range.2}

/-- A text of the language, or several, one behind the other. -/
def oneOrMore (language : Language Char) : Language Char := language * KStar.kstar language

/-- `[A-Za-z0-9.+-]+/[A-Za-z0-9.+-]+` -/
def mediaType : Language Char :=
  let half := oneOrMore
    (oneOf [('A', 'Z'), ('a', 'z'), ('0', '9'), ('.', '.'), ('+', '+'), ('-', '-')])
  half * {['/']} * half

/-- `#![a-z0-9.-]+` -/
def rendererReference : Language Char :=
  {['#', '!']} * oneOrMore (oneOf [('a', 'z'), ('0', '9'), ('.', '.'), ('-', '-')])

theorem mem_oneOf_iff (ranges : List (Char × Char)) (t : Text) :
    t ∈ oneOf ranges ↔ ∃ c, t = [c] ∧ ∃ range ∈ ranges, range.1 ≤ c ∧ c ≤ range.2 := Iff.rfl

theorem mem_singleton_iff (t word : Text) : t ∈ ({word} : Language Char) ↔ t = word := Iff.rfl

/-- One character or more of a class are a run of it. -/
theorem mem_oneOrMore_oneOf_iff {p : Char → Bool} {ranges : List (Char × Char)}
    (chars : ∀ c, p c = true ↔ ∃ range ∈ ranges, range.1 ≤ c ∧ c ≤ range.2) (t : Text) :
    t ∈ oneOrMore (oneOf ranges) ↔ Text.isRunOf p t = true := by
  have one : ∀ s : Text, s ∈ oneOf ranges ↔ ∃ c, s = [c] ∧ p c = true := by
    intro s
    simp only [mem_oneOf_iff, chars]
  rw [oneOrMore, Language.mem_mul, Text.isRunOf_iff]
  -- The star is a list of words of one character each, and their text is these characters.
  constructor
  · rintro ⟨first, mem, rest, more, rfl⟩
    obtain ⟨c, rfl, char⟩ := (one first).mp mem
    obtain ⟨parts, rfl, each⟩ := Language.mem_kstar.mp more
    refine ⟨by simp, List.forall_mem_cons.mpr ⟨char, ?_⟩⟩
    intro d inRest
    obtain ⟨part, inParts, here⟩ := List.mem_flatten.mp inRest
    obtain ⟨e, rfl, char⟩ := (one part).mp (each part inParts)
    exact List.mem_singleton.mp here ▸ char
  · rintro ⟨nonempty, run⟩
    obtain ⟨c, rest, rfl⟩ := List.exists_cons_of_ne_nil nonempty
    obtain ⟨char, others⟩ := List.forall_mem_cons.mp run
    refine ⟨[c], (one _).mpr ⟨c, rfl, char⟩, rest, Language.mem_kstar.mpr ?_, rfl⟩
    refine ⟨rest.map fun d => [d], ?_, ?_⟩
    · rw [← List.flatMap_def, List.flatMap_singleton']
    · intro part mem
      obtain ⟨d, here, rfl⟩ := List.mem_map.mp mem
      exact (one _).mpr ⟨d, rfl, others d here⟩

theorem char_le_iff (c d : Char) : c ≤ d ↔ c.toNat ≤ d.toNat := UInt32.le_iff_toNat_le

theorem mem_mediaType_iff (t : Text) : t ∈ mediaType ↔ isMediaType t = true := by
  have chars : ∀ c, isMediaTypeChar c = true ↔
      ∃ range ∈ [('A', 'Z'), ('a', 'z'), ('0', '9'), ('.', '.'), ('+', '+'), ('-', '-')],
        range.1 ≤ c ∧ c ≤ range.2 := by
    intro c
    simp only [isMediaTypeChar_iff, char_le_iff, List.mem_cons, List.not_mem_nil, or_false,
      exists_eq_or_imp, exists_eq_left, Char.reduceToNat]
    omega
  rw [isMediaType_iff, mediaType]
  simp only [Language.mem_mul, mem_singleton_iff, mem_oneOrMore_oneOf_iff chars]
  constructor
  · rintro ⟨_, ⟨type, typeRun, _, rfl, rfl⟩, subtype, subtypeRun, rfl⟩
    exact ⟨type, subtype, by simp, typeRun, subtypeRun⟩
  · rintro ⟨type, subtype, text, typeRun, subtypeRun⟩
    exact ⟨_, ⟨type, typeRun, _, rfl, rfl⟩, subtype, subtypeRun, by simp [text]⟩

theorem mem_rendererReference_iff (t : Text) :
    t ∈ rendererReference ↔
      ∃ name, t = '#' :: '!' :: name ∧ Text.isRunOf Specline.isRendererChar name = true := by
  have chars : ∀ c, Specline.isRendererChar c = true ↔
      ∃ range ∈ [('a', 'z'), ('0', '9'), ('.', '.'), ('-', '-')], range.1 ≤ c ∧ c ≤ range.2 := by
    intro c
    simp only [Specline.isRendererChar, Bool.or_eq_true, beq_iff_eq, Text.isLower_iff,
      Text.isDigit_iff, ← Char.toNat_inj, char_le_iff, List.mem_cons, List.not_mem_nil, or_false,
      exists_eq_or_imp, exists_eq_left, Char.reduceToNat]
    omega
  rw [rendererReference]
  simp only [Language.mem_mul, mem_singleton_iff, mem_oneOrMore_oneOf_iff chars]
  constructor
  · rintro ⟨_, rfl, name, run, rfl⟩
    exact ⟨name, rfl, run⟩
  · rintro ⟨name, rfl, run⟩
    exact ⟨_, rfl, name, run, rfl⟩

end Pattern

/-! ## Lines -/

namespace Specline

/-- A line says something when it is one media type, or a reference and a media type. -/
theorem reads_iff (fallback line : Text) (specline : Specline) :
    Reads fallback line specline ↔
      (∃ mediaType, Text.HasWords line [mediaType] ∧ mediaType ∈ Pattern.mediaType ∧
        specline = ⟨fallback, mediaType⟩) ∨
      ∃ reference mediaType, Text.HasWords line [reference, mediaType] ∧
        reference ∈ Pattern.rendererReference ∧ mediaType ∈ Pattern.mediaType ∧
        specline = ⟨reference.drop 2, mediaType⟩ := by
  simp only [← Text.words_eq_iff, Pattern.mem_mediaType_iff, Pattern.mem_rendererReference_iff]
  constructor
  · rintro (⟨words, wellFormed⟩ | ⟨words, named, wellFormed⟩)
    · exact .inl ⟨_, words, wellFormed, rfl⟩
    · exact .inr ⟨_, _, words, ⟨_, rfl, named⟩, wellFormed, rfl⟩
  · rintro (⟨mediaType, words, wellFormed, rfl⟩ |
      ⟨_, mediaType, words, ⟨name, rfl, named⟩, wellFormed, rfl⟩)
    · exact .alone words wellFormed
    · exact .withRenderer words named wellFormed

/-- The faults in the order in which they are looked for: no text, a number of words other than one
or two, a last word that is no media type, a first of two that is no reference. -/
theorem fault_iff (line : Text) (error : CompileError) :
    Fault line error ↔
      (line = [] ∧ error = .emptySpecline) ∨
      (line ≠ [] ∧ (∃ words, Text.HasWords line words ∧ (words = [] ∨ 2 < words.length)) ∧
        error = .speclineParts line) ∨
      (∃ mediaType, (Text.HasWords line [mediaType] ∨
          ∃ reference, Text.HasWords line [reference, mediaType]) ∧
        mediaType ∉ Pattern.mediaType ∧ error = .malformedMediaType mediaType line) ∨
      ∃ reference mediaType, Text.HasWords line [reference, mediaType] ∧
        mediaType ∈ Pattern.mediaType ∧ reference ∉ Pattern.rendererReference ∧
        error = .malformedRenderer reference := by
  have count : ∀ words : List Text,
      words = [] ∨ 2 < words.length ↔ words.length ≠ 1 ∧ words.length ≠ 2 := by
    intro words
    rw [← List.length_eq_zero_iff]
    omega
  simp only [← Text.words_eq_iff, Pattern.mem_mediaType_iff, Pattern.mem_rendererReference_iff,
    count, exists_eq_left', not_exists, not_and, Bool.not_eq_true]
  constructor
  · rintro (nothing | ⟨something, notOne, notTwo⟩ | ⟨words, malformed⟩ |
      ⟨words, wellFormed, malformed⟩)
    · exact .inl ⟨nothing, rfl⟩
    · exact .inr (.inl ⟨something, ⟨notOne, notTwo⟩, rfl⟩)
    · exact .inr (.inr (.inl ⟨_, words, malformed, rfl⟩))
    · exact .inr (.inr (.inr ⟨_, _, words, wellFormed, malformed, rfl⟩))
  · rintro (⟨nothing, rfl⟩ | ⟨something, ⟨notOne, notTwo⟩, rfl⟩ | ⟨_, words, malformed, rfl⟩ |
      ⟨_, _, words, wellFormed, malformed, rfl⟩)
    · exact .empty nothing
    · exact .parts something notOne notTwo
    · exact .mediaType words malformed
    · exact .renderer words wellFormed malformed

/-- The specline that names both, with one blank between them. -/
def canonical (specline : Specline) : Text :=
  '#' :: '!' :: specline.renderer ++ ' ' :: specline.mediaType

theorem isBlank_of_isRendererChar {c : Char} (char : isRendererChar c = true) :
    Text.isBlank c = false := by
  refine isBlank_of_isMediaTypeChar ?_
  simp only [isRendererChar, Bool.or_eq_true, beq_iff_eq] at char
  rcases char with ((lower | digit) | rfl) | rfl
  · have letter : c.isAlpha = true := by
      rw [Text.isAlpha_iff, ← Text.isLower_iff]
      exact .inr lower
    simp [isMediaTypeChar, Char.isAlphanum, letter]
  · simp [isMediaTypeChar, Char.isAlphanum, digit]
  · decide
  · decide

/-- A reference and a media type are read whatever blanks are between them, and whatever would be
used where no renderer is named. -/
theorem ofText_pair {name mediaType blanks : Text}
    (named : Text.isRunOf isRendererChar name = true) (wellFormed : isMediaType mediaType = true)
    (apart : blanks ≠ []) (blank : ∀ c ∈ blanks, Text.isBlank c = true) (fallback : Text) :
    ofText fallback ('#' :: '!' :: name ++ blanks ++ mediaType) = .ok ⟨name, mediaType⟩ := by
  obtain ⟨type, subtype, halves⟩ := (isMediaType_iff _).mp wellFormed
  have chars := ((Text.isRunOf_iff ..).mp named).2
  have solid : ∀ c ∈ '#' :: '!' :: name, Text.isBlank c = false := by
    simp only [List.forall_mem_cons]
    exact ⟨by decide, by decide, fun c mem => isBlank_of_isRendererChar (chars c mem)⟩
  have words := Text.hasWords_pair (by simp) solid halves.ne_nil halves.solid apart blank
  exact ofText_of_reads (.withRenderer (Text.words_of_hasWords words) named wellFormed)

/-- **A specline is what its grammar says.**  A line is read when it is one word that is a media
type, for the renderer that is used where none is named, or two words, a reference and a media type.
Otherwise it is refused, for the first of four faults that it has; a malformed media type goes
before a malformed reference.  A renderer and a media type are read back from a reference, blanks
and the media type, so a line of two words says what its canonical form says. -/
theorem ofText_reads_grammar (fallback line : Text) :
    (∀ specline, ofText fallback line = .ok specline ↔
      (∃ mediaType, Text.HasWords line [mediaType] ∧ mediaType ∈ Pattern.mediaType ∧
        specline = ⟨fallback, mediaType⟩) ∨
      ∃ reference mediaType, Text.HasWords line [reference, mediaType] ∧
        reference ∈ Pattern.rendererReference ∧ mediaType ∈ Pattern.mediaType ∧
        specline = ⟨reference.drop 2, mediaType⟩) ∧
    (∀ error, ofText fallback line = .error error ↔
      (line = [] ∧ error = .emptySpecline) ∨
      (line ≠ [] ∧ (∃ words, Text.HasWords line words ∧ (words = [] ∨ 2 < words.length)) ∧
        error = .speclineParts line) ∨
      (∃ mediaType, (Text.HasWords line [mediaType] ∨
          ∃ reference, Text.HasWords line [reference, mediaType]) ∧
        mediaType ∉ Pattern.mediaType ∧ error = .malformedMediaType mediaType line) ∨
      ∃ reference mediaType, Text.HasWords line [reference, mediaType] ∧
        mediaType ∈ Pattern.mediaType ∧ reference ∉ Pattern.rendererReference ∧
        error = .malformedRenderer reference) ∧
    (∀ name mediaType blanks, '#' :: '!' :: name ∈ Pattern.rendererReference →
      mediaType ∈ Pattern.mediaType → blanks ≠ [] → (∀ c ∈ blanks, Text.isBlank c = true) →
      ofText fallback ('#' :: '!' :: name ++ blanks ++ mediaType) = .ok ⟨name, mediaType⟩) ∧
    ∀ specline reference mediaType, ofText fallback line = .ok specline →
      Text.HasWords line [reference, mediaType] →
      ∀ other, ofText other specline.canonical = .ok specline := by
  refine ⟨?_, ?_, ?_, ?_⟩
  · intro specline
    rw [ofText_eq_ok_iff, reads_iff]
  · intro error
    rw [ofText_eq_error_iff, fault_iff]
  · intro name mediaType blanks reference wellFormed apart blank
    obtain ⟨_, ⟨⟩, named⟩ := (Pattern.mem_rendererReference_iff _).mp reference
    exact ofText_pair named ((Pattern.mem_mediaType_iff _).mp wellFormed) apart blank fallback
  · intro specline reference mediaType read two other
    -- The words are given, so the line was not read as one media type.
    have same := Text.words_of_hasWords two
    cases (ofText_eq_ok_iff ..).mp read with
    | alone words _ =>
        rw [words] at same
        cases same
    | withRenderer _ named wellFormed =>
        have blank : ∀ c ∈ [' '], Text.isBlank c = true := List.forall_mem_singleton.mpr (by decide)
        have again := ofText_pair named wellFormed (by simp) blank other
        simpa [canonical] using again

/-- The blanks around and between the two words are not all of ASCII. -/
theorem ofText_reads_grammar_wide_blanks :
    let line : Text := "\u2003#!x.1\u0085\ttext/a+b "
    let specline : Specline := ⟨"x.1", "text/a+b"⟩
    ofText "raw" line = .ok specline ∧ ofText "raw" "#!x.1\u3000text/a+b" = .ok specline ∧
      specline.canonical = "#!x.1 text/a+b" ∧
      ofText "template" specline.canonical = .ok specline := by
  intro line specline
  obtain ⟨reads, -, back, again⟩ := ofText_reads_grammar "raw" line
  have two : Text.HasWords line ["#!x.1", "text/a+b"] := (Text.words_eq_iff ..).mp (by decide)
  have reference : "#!x.1".toList ∈ Pattern.rendererReference :=
    (Pattern.mem_rendererReference_iff _).mpr ⟨"x.1", rfl, by decide⟩
  have wellFormed : "text/a+b".toList ∈ Pattern.mediaType :=
    (Pattern.mem_mediaType_iff _).mpr (by decide)
  have read : ofText "raw" line = .ok specline :=
    (reads specline).mpr (.inr ⟨_, _, two, reference, wellFormed, rfl⟩)
  have wide : ∀ c ∈ ['\u3000'], Text.isBlank c = true :=
    List.forall_mem_singleton.mpr (by decide)
  exact ⟨read, back "x.1" _ _ reference wellFormed (by simp) wide, rfl,
    again specline _ _ read two "template"⟩

end Specline
end Multipage
