/-
# Multipage.Proofs.Text.Words -- the words of a text

The words are what stands between runs of blanks (`Text.HasWords`), and `words` finds them
(`Text.words_eq_iff`).  A text is cut at every blank, so two texts with a blank between them have
the words of the first and then those of the second (`Text.words_append_blank`).  Every text has
words, found from its end by what each character adds to them (`Text.exists_hasWords`).
-/
import Multipage.Proofs.Text.Cut

namespace Multipage.Text

set_option autoImplicit false

/-- `t` is these words, with blanks around them and at least one between any two. -/
inductive HasWords : Text → List Text → Prop where
  | blank {t : Text} (blank : ∀ c ∈ t, isBlank c = true) : HasWords t []
  | word {blanks word rest : Text} {words : List Text} (blank : ∀ c ∈ blanks, isBlank c = true)
      (nonempty : word ≠ []) (solid : ∀ c ∈ word, isBlank c = false)
      (apart : ∀ c ∈ rest.head?, isBlank c = true) (more : HasWords rest words) :
      HasWords (blanks ++ word ++ rest) (word :: words)

theorem words_append_blank {c : Char} (blank : isBlank c = true) (s t : Text) :
    words (s ++ c :: t) = words s ++ words t := by
  rw [words, List.splitOnP_append_cons s t blank, List.filter_append]
  rfl

theorem words_of_solid {t : Text} (nonempty : t ≠ []) (solid : ∀ c ∈ t, isBlank c = false) :
    words t = [t] := by
  rw [words, List.splitOnP_eq_singleton solid]
  simp [nonempty]

theorem words_nil : words [] = [] := by simp [words]

theorem words_blanks_append {blanks : Text} (blank : ∀ c ∈ blanks, isBlank c = true) (t : Text) :
    words (blanks ++ t) = words t := by
  induction blanks with
  | nil => rfl
  | cons c blanks ih =>
      have skip := words_append_blank (blank c List.mem_cons_self) [] (blanks ++ t)
      rw [List.nil_append, words_nil, List.nil_append] at skip
      rw [List.cons_append, skip, ih fun d mem => blank d (List.mem_cons_of_mem _ mem)]

theorem words_of_hasWords {t : Text} {ws : List Text} (has : HasWords t ws) : words t = ws := by
  -- On the words: those of the rest are known, and the blank that ends the first is read with it.
  induction has with
  | @blank t blank =>
      have none := words_blanks_append blank []
      rwa [List.append_nil, words_nil] at none
  | @word blanks word rest ws blank nonempty solid apart _ ih =>
      rw [List.append_assoc, words_blanks_append blank]
      cases rest with
      | nil => rw [List.append_nil, words_of_solid nonempty solid, ← ih, words_nil]
      | cons c rest =>
          have gap : isBlank c = true := apart c rfl
          have skip := words_append_blank gap [] rest
          rw [List.nil_append, words_nil, List.nil_append] at skip
          rw [words_append_blank gap, words_of_solid nonempty solid, ← skip, ih]
          rfl

/-- A blank in front of a text belongs to no word. -/
theorem HasWords.cons_blank {c : Char} {t : Text} {ws : List Text} (blank : isBlank c = true)
    (has : HasWords t ws) : HasWords (c :: t) ws := by
  cases has with
  | blank others => exact .blank (List.forall_mem_cons.mpr ⟨blank, others⟩)
  | word others nonempty solid apart more =>
      exact .word (List.forall_mem_cons.mpr ⟨blank, others⟩) nonempty solid apart more

/-- Any other character begins a word of its own, or belongs to the word that begins there. -/
theorem HasWords.exists_cons_solid {c : Char} {t : Text} {ws : List Text}
    (solid : isBlank c = false) (has : HasWords t ws) : ∃ more, HasWords (c :: t) more := by
  have none : ∀ d ∈ ([] : Text), isBlank d = true := by simp
  have alone : ∀ d ∈ [c], isBlank d = false := by simpa using solid
  cases has with
  | blank others =>
      have apart : ∀ d ∈ t.head?, isBlank d = true :=
        fun d first => others d (List.mem_of_mem_head? first)
      exact ⟨[[c]], .word none (by simp) alone apart (.blank others)⟩
  | @word blanks word rest _ others nonempty wordSolid apart more =>
      cases blanks with
      | nil =>
          exact ⟨(c :: word) :: _, .word none (by simp)
            (List.forall_mem_cons.mpr ⟨solid, wordSolid⟩) apart more⟩
      | cons d blanks =>
          have first : ∀ e ∈ (d :: blanks ++ word ++ rest).head?, isBlank e = true := by
            rintro _ ⟨⟩
            exact others d List.mem_cons_self
          exact ⟨[c] :: word :: _, .word none (by simp) alone first
            (.word others nonempty wordSolid apart more)⟩

theorem exists_hasWords (t : Text) : ∃ ws, HasWords t ws := by
  induction t with
  | nil => exact ⟨[], .blank (by simp)⟩
  | cons c t ih =>
      obtain ⟨ws, has⟩ := ih
      cases blank : isBlank c with
      | true => exact ⟨ws, has.cons_blank blank⟩
      | false => exact has.exists_cons_solid blank

/-- Every text has one list of words. -/
theorem words_eq_iff (t : Text) (ws : List Text) : words t = ws ↔ HasWords t ws := by
  obtain ⟨others, has⟩ := exists_hasWords t
  constructor
  · rintro rfl
    rwa [words_of_hasWords has]
  · exact words_of_hasWords

/-- Two words with blanks between them. -/
theorem hasWords_pair {first second blanks : Text} (someFirst : first ≠ [])
    (solidFirst : ∀ c ∈ first, isBlank c = false) (someSecond : second ≠ [])
    (solidSecond : ∀ c ∈ second, isBlank c = false) (apart : blanks ≠ [])
    (blank : ∀ c ∈ blanks, isBlank c = true) :
    HasWords (first ++ blanks ++ second) [first, second] := by
  have last : HasWords (blanks ++ second ++ []) [second] :=
    .word blank someSecond solidSecond (by simp) (.blank (by simp))
  have gap : ∀ c ∈ (blanks ++ second ++ []).head?, isBlank c = true := by
    obtain ⟨c, rest, rfl⟩ := List.exists_cons_of_ne_nil apart
    rintro _ ⟨⟩
    exact blank c List.mem_cons_self
  have none : ∀ c ∈ ([] : Text), isBlank c = true := by simp
  have both := HasWords.word none someFirst solidFirst gap last
  simpa using both

end Multipage.Text
