/-
# Multipage.Proofs.Specline -- what a specline says, and why one is refused

A specline is one word, a media type, or two words, a renderer reference and a media type
(`Specline.Reads`).  Everything else is refused for one reason (`Specline.Fault`): an empty line
before a wrong number of words, this before a malformed media type, and this before a malformed
reference.  `ofText_eq_ok_iff` and `ofText_eq_error_iff` say that reading is exactly that.
-/
import Multipage.Proofs.Text.Cut
import Multipage.Specline

namespace Multipage.Specline

set_option autoImplicit false

/-- What a line says when it is a specline. -/
inductive Reads (fallback line : Text) : Specline → Prop where
  | alone {mediaType : Text} (words : Text.words line = [mediaType])
      (wellFormed : isMediaType mediaType = true) : Reads fallback line ⟨fallback, mediaType⟩
  | withRenderer {name mediaType : Text}
      (words : Text.words line = ['#' :: '!' :: name, mediaType])
      (named : Text.isRunOf isRendererChar name = true)
      (wellFormed : isMediaType mediaType = true) : Reads fallback line ⟨name, mediaType⟩

/-- Why a line is no specline. -/
inductive Fault (line : Text) : CompileError → Prop where
  | empty (nothing : line = []) : Fault line .emptySpecline
  | parts (something : line ≠ []) (notOne : (Text.words line).length ≠ 1)
      (notTwo : (Text.words line).length ≠ 2) : Fault line (.speclineParts line)
  | mediaType {mediaType : Text}
      (words : Text.words line = [mediaType] ∨
        ∃ reference, Text.words line = [reference, mediaType])
      (malformed : isMediaType mediaType = false) : Fault line (.malformedMediaType mediaType line)
  | renderer {reference mediaType : Text} (words : Text.words line = [reference, mediaType])
      (wellFormed : isMediaType mediaType = true)
      (malformed : ∀ name, reference = '#' :: '!' :: name →
        Text.isRunOf isRendererChar name = false) : Fault line (.malformedRenderer reference)

theorem rendererName?_eq_some_iff (reference name : Text) :
    rendererName? reference = some name ↔
      reference = '#' :: '!' :: name ∧ Text.isRunOf isRendererChar name = true := by
  unfold rendererName?
  split
  · rename_i given
    simp only [Option.ite_none_right_eq_some, Option.some_inj, List.cons.injEq, true_and]
    constructor
    · rintro ⟨run, rfl⟩
      exact ⟨rfl, run⟩
    · rintro ⟨rfl, run⟩
      exact ⟨run, rfl⟩
  · rename_i other
    simp only [reduceCtorEq, false_iff, not_and]
    rintro rfl
    exact absurd rfl (other name)

theorem rendererName?_eq_none_iff (reference : Text) :
    rendererName? reference = none ↔
      ∀ name, reference = '#' :: '!' :: name → Text.isRunOf isRendererChar name = false := by
  simp only [Option.eq_none_iff_forall_ne_some, ne_eq, rendererName?_eq_some_iff, not_and,
    Bool.not_eq_true]

theorem ne_nil_of_words {line word : Text} {rest : List Text}
    (words : Text.words line = word :: rest) : line ≠ [] := by
  rintro rfl
  simp [Text.words] at words

theorem ofText_of_reads {fallback line : Text} {specline : Specline}
    (reads : Reads fallback line specline) : ofText fallback line = .ok specline := by
  cases reads with
  | alone words wellFormed => simp [ofText, parts?, words, ne_nil_of_words words, wellFormed]
  | withRenderer words named wellFormed =>
      have name := (rendererName?_eq_some_iff _ _).mpr ⟨rfl, named⟩
      simp [ofText, parts?, words, ne_nil_of_words words, wellFormed, name]

theorem ofText_of_fault {fallback line : Text} {error : CompileError}
    (fault : Fault line error) : ofText fallback line = .error error := by
  cases fault with
  | empty nothing => simp [ofText, nothing]
  | parts something notOne notTwo =>
      have none : parts? line = none := by
        unfold parts?
        split
        · rename_i words
          simp [words] at notOne
        · rename_i words
          simp [words] at notTwo
        · rfl
      simp [ofText, none, something]
  | mediaType words malformed =>
      rcases words with words | ⟨reference, words⟩ <;>
        simp [ofText, parts?, words, ne_nil_of_words words, malformed]
  | renderer words wellFormed malformed =>
      have none := (rendererName?_eq_none_iff _).mpr malformed
      simp [ofText, parts?, words, ne_nil_of_words words, wellFormed, none]

/-- A line says something or is refused for a reason. -/
theorem reads_or_fault (fallback line : Text) :
    (∃ specline, Reads fallback line specline) ∨ ∃ error, Fault line error := by
  by_cases nothing : line = []
  · exact .inr ⟨_, .empty nothing⟩
  match words : Text.words line with
  | [] => exact .inr ⟨_, .parts nothing (by simp [words]) (by simp [words])⟩
  | [mediaType] =>
      cases wellFormed : isMediaType mediaType with
      | true => exact .inl ⟨_, .alone words wellFormed⟩
      | false => exact .inr ⟨_, .mediaType (.inl words) wellFormed⟩
  | [reference, mediaType] =>
      cases wellFormed : isMediaType mediaType with
      | false => exact .inr ⟨_, .mediaType (.inr ⟨reference, words⟩) wellFormed⟩
      | true =>
          cases named : rendererName? reference with
          | none =>
              exact .inr ⟨_, .renderer words wellFormed ((rendererName?_eq_none_iff _).mp named)⟩
          | some name =>
              obtain ⟨rfl, run⟩ := (rendererName?_eq_some_iff _ _).mp named
              exact .inl ⟨_, .withRenderer words run wellFormed⟩
  | _ :: _ :: _ :: _ => exact .inr ⟨_, .parts nothing (by simp [words]) (by simp [words])⟩

theorem ofText_eq_ok_iff (fallback line : Text) (specline : Specline) :
    ofText fallback line = .ok specline ↔ Reads fallback line specline := by
  constructor
  · intro read
    rcases reads_or_fault fallback line with ⟨other, reads⟩ | ⟨error, fault⟩
    · exact Except.ok.inj ((ofText_of_reads reads).symm.trans read) ▸ reads
    · simp [ofText_of_fault fault] at read
  · exact ofText_of_reads

theorem ofText_eq_error_iff (fallback line : Text) (error : CompileError) :
    ofText fallback line = .error error ↔ Fault line error := by
  constructor
  · intro refused
    rcases reads_or_fault fallback line with ⟨specline, reads⟩ | ⟨other, fault⟩
    · simp [ofText_of_reads reads] at refused
    · exact Except.error.inj ((ofText_of_fault fault).symm.trans refused) ▸ fault
  · exact ofText_of_fault

theorem Reads.wellFormed {fallback line : Text} {specline : Specline}
    (reads : Reads fallback line specline) : isMediaType specline.mediaType = true := by
  cases reads with
  | alone _ wellFormed => exact wellFormed
  | withRenderer _ _ wellFormed => exact wellFormed

/-- The media type is the last word, whichever renderer is meant. -/
theorem Reads.getLast?_words {fallback line : Text} {specline : Specline}
    (reads : Reads fallback line specline) :
    (Text.words line).getLast? = some specline.mediaType := by
  cases reads with
  | alone words _ => rw [words]; rfl
  | withRenderer words _ _ => rw [words]; rfl

end Multipage.Specline
