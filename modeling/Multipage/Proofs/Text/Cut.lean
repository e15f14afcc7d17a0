/-
# Multipage.Proofs.Text.Cut -- what the cuts of a text leave

* `Text.splitOnce_eq_some_iff`, `Text.splitLast_eq_some_iff`: the two parts are the text around
  the first such character, or around the last;
* `Text.length_splitOn` and `Text.notMem_of_mem_splitOn`: the pieces between the marks are one
  more than the marks, and no mark is in them;
* `Text.exists_around_of_getElem?_splitOn`: a piece stands where the count of the marks says, and
  the last of them behind the last mark (`Text.getLast?_splitOn_iff`);
* `Text.trimBy_eq_iff`: trimming leaves the one text with solid ends between two runs of what is
  dropped, so all of a text without such characters (`Text.trimBy_eq_self`) and nothing of a text
  without others (`Text.trimBy_eq_nil_iff`);
* `Text.trim_cut`: trimming a text around a mark leaves the blanks next to the mark.
-/
import Multipage.Text.Blank
import Mathlib.Data.List.TakeWhile

namespace Multipage.Text

set_option autoImplicit false

theorem splitOnce_eq_none_iff (c : Char) (t : Text) : splitOnce c t = none ↔ c ∉ t := by
  simp [splitOnce]

theorem splitOnce_append (c : Char) (before after : Text) (first : c ∉ before) :
    splitOnce c (before ++ c :: after) = some (before, after) := by
  have passes : ∀ x ∈ before, decide (x ≠ c) = true := by
    intro x mem
    exact decide_eq_true fun same => first (same ▸ mem)
  rw [splitOnce, if_pos (by simp), List.takeWhile_append_of_pos passes,
    List.dropWhile_append_of_pos passes]
  simp

/-- The parts are what stands around the first `c`. -/
theorem splitOnce_eq_some_iff (c : Char) (t before after : Text) :
    splitOnce c t = some (before, after) ↔ t = before ++ c :: after ∧ c ∉ before := by
  constructor
  · intro cut
    have mem : c ∈ t := by
      by_contra absent
      rw [(splitOnce_eq_none_iff c t).mpr absent] at cut
      simp at cut
    obtain ⟨left, right, rfl, first⟩ := List.eq_append_cons_of_mem mem
    rw [splitOnce_append c left right first, Option.some_inj, Prod.mk.injEq] at cut
    obtain ⟨rfl, rfl⟩ := cut
    exact ⟨rfl, first⟩
  · rintro ⟨rfl, first⟩
    exact splitOnce_append c before after first

/-- The parts are what stands around the last `c`. -/
theorem splitLast_eq_some_iff (c : Char) (t before after : Text) :
    splitLast c t = some (before, after) ↔ t = before ++ c :: after ∧ c ∉ after := by
  have backwards : t.reverse = after.reverse ++ c :: before.reverse ↔
      t = before ++ c :: after := by
    rw [List.reverse_eq_iff]
    simp
  rw [← backwards, ← List.mem_reverse, ← splitOnce_eq_some_iff, splitLast, Option.map_eq_some_iff]
  constructor
  · rintro ⟨⟨first, rest⟩, cut, same⟩
    obtain ⟨rfl, rfl⟩ := Prod.mk.inj same
    rw [cut, List.reverse_reverse, List.reverse_reverse]
  · exact fun cut => ⟨_, cut, by simp⟩

/-- To show something of every list, show it of a list without the mark, and of a piece without
the mark that stands before a mark and a list of which it holds. -/
@[elab_as_elim]
theorem cut_induction {α : Type} (mark : α) {motive : List α → Prop}
    (last : ∀ piece, mark ∉ piece → motive piece)
    (cut : ∀ piece more, mark ∉ piece → motive more → motive (piece ++ mark :: more))
    (whole : List α) : motive whole := by
  induction size : whole.length using Nat.strong_induction_on generalizing whole with
  | _ _ ih =>
    by_cases mem : mark ∈ whole
    · obtain ⟨piece, more, rfl, single⟩ := List.eq_append_cons_of_mem mem
      exact cut piece more single (ih more.length (by simp [← size]; omega) more rfl)
    · exact last whole mem

/-- There is one piece more than there are marks. -/
theorem length_splitOn {α : Type} [DecidableEq α] (mark : α) (whole : List α) :
    (whole.splitOn mark).length = whole.count mark + 1 := by
  induction whole using cut_induction mark with
  | last piece single =>
      rw [List.splitOn_eq_singleton single, List.count_eq_zero.mpr single]
      rfl
  | cut piece more single ih =>
      rw [List.splitOn_append_cons_self_of_not_mem single, List.length_cons, ih, List.count_append,
        List.count_eq_zero.mpr single, List.count_cons_self, Nat.zero_add]

theorem notMem_of_mem_splitOn {α : Type} [DecidableEq α] (mark : α) {whole piece : List α}
    (mem : piece ∈ whole.splitOn mark) : mark ∉ piece := by
  induction whole using cut_induction mark with
  | last whole single =>
      rw [List.splitOn_eq_singleton single, List.mem_singleton] at mem
      exact mem ▸ single
  | cut first more single ih =>
      rw [List.splitOn_append_cons_self_of_not_mem single, List.mem_cons] at mem
      rcases mem with rfl | later
      · exact single
      · exact ih later

theorem subset_of_mem_splitOn {α : Type} [DecidableEq α] (mark : α) {whole piece : List α}
    (mem : piece ∈ whole.splitOn mark) : piece ⊆ whole := by
  induction whole using cut_induction mark with
  | last whole single =>
      rw [List.splitOn_eq_singleton single, List.mem_singleton] at mem
      exact mem ▸ List.Subset.refl _
  | cut first more single ih =>
      rw [List.splitOn_append_cons_self_of_not_mem single, List.mem_cons] at mem
      rcases mem with rfl | later
      · exact List.subset_append_left _ _
      · exact fun x here => List.mem_append_right _ (List.mem_cons_of_mem _ (ih later here))

/-- The first piece is what stands before the first mark. -/
theorem exists_splitOn_eq (mark : Char) (t : Text) :
    ∃ pieces, t.splitOn mark = t.takeWhile (· ≠ mark) :: pieces := by
  have passes : ∀ piece : Text, mark ∉ piece → ∀ c ∈ piece, decide (c ≠ mark) = true := by
    intro piece single c mem
    exact decide_eq_true fun same => single (same ▸ mem)
  by_cases mem : mark ∈ t
  · obtain ⟨piece, more, rfl, single⟩ := List.eq_append_cons_of_mem mem
    rw [List.splitOn_append_cons_self_of_not_mem single,
      List.takeWhile_append_of_pos (passes piece single)]
    simp
  · rw [List.splitOn_eq_singleton mem, List.takeWhile_eq_self_iff.mpr (passes t mem)]
    exact ⟨[], rfl⟩

/-- The first piece ends at the first mark. -/
theorem exists_after_of_head?_splitOn {α : Type} [DecidableEq α] (mark : α)
    {whole piece : List α} (first : (whole.splitOn mark)[0]? = some piece) :
    ∃ after, whole = piece ++ after ∧ ∀ x ∈ after.head?, x = mark := by
  cases whole using cut_induction mark with
  | last whole single =>
      rw [List.splitOn_eq_singleton single, List.getElem?_cons_zero, Option.some_inj] at first
      subst first
      exact ⟨[], (List.append_nil _).symm, by simp⟩
  | cut piece more single _ =>
      rw [List.splitOn_append_cons_self_of_not_mem single, List.getElem?_cons_zero,
        Option.some_inj] at first
      subst first
      exact ⟨mark :: more, rfl, by simp⟩

/-- Any other piece stands after a mark, with as many marks before this one as there are pieces
before the piece but the first, and ends at the next mark. -/
theorem exists_around_of_getElem?_splitOn {α : Type} [DecidableEq α] (mark : α)
    {whole piece : List α} {index : Nat} (there : (whole.splitOn mark)[index + 1]? = some piece) :
    ∃ before after, whole = before ++ mark :: (piece ++ after) ∧ before.count mark = index ∧
      ∀ x ∈ after.head?, x = mark := by
  induction whole using cut_induction mark generalizing index with
  | last whole single => simp [List.splitOn_eq_singleton single] at there
  | cut first more single ih =>
      rw [List.splitOn_append_cons_self_of_not_mem single, List.getElem?_cons_succ] at there
      have noMark : first.count mark = 0 := List.count_eq_zero.mpr single
      cases index with
      | zero =>
          obtain ⟨after, rfl, ends⟩ := exists_after_of_head?_splitOn mark there
          exact ⟨first, after, rfl, noMark, ends⟩
      | succ index =>
          obtain ⟨before, after, rfl, count, ends⟩ := ih there
          refine ⟨first ++ mark :: before, after, by simp, ?_, ends⟩
          rw [List.count_append, List.count_cons_self, noMark, count, Nat.zero_add]

/-- A mark that is in no part and not between them is not in the whole. -/
theorem notMem_join {mark : Char} {sep : Text} (apart : mark ∉ sep) {parts : List Text}
    (each : ∀ part ∈ parts, mark ∉ part) : mark ∉ join sep parts := by
  induction parts with
  | nil => simp [join]
  | cons part rest ih =>
      obtain ⟨first, others⟩ := List.forall_mem_cons.mp each
      cases rest with
      | nil => simpa [join] using first
      | cons next more =>
          have tail := ih others
          rw [join] at tail ⊢
          simp only [List.intercalate_cons_cons, List.mem_append, not_or]
          exact ⟨⟨first, apart⟩, tail⟩

/-- A mark is found by the number of marks before it. -/
theorem append_cons_inj_of_count {α : Type} [DecidableEq α] {mark : α} :
    ∀ {before other rest more : List α}, before ++ mark :: rest = other ++ mark :: more →
      before.count mark = other.count mark → before = other ∧ rest = more
  | [], [], _, _, same, _ => ⟨rfl, (List.cons.inj same).2⟩
  | [], x :: other, rest, more, same, count => by
      obtain ⟨rfl, -⟩ := List.cons.inj same
      simp at count
  | x :: before, [], rest, more, same, count => by
      obtain ⟨rfl, -⟩ := List.cons.inj same
      simp at count
  | x :: before, y :: other, rest, more, same, count => by
      obtain ⟨rfl, tails⟩ := List.cons.inj same
      have counts : before.count mark = other.count mark := by
        rw [List.count_cons, List.count_cons] at count
        omega
      obtain ⟨rfl, rfl⟩ := append_cons_inj_of_count tails counts
      exact ⟨rfl, rfl⟩

/-- What ends at the first mark is found by its start. -/
theorem append_inj_of_ends {α : Type} {mark : α} {piece other after more : List α}
    (same : piece ++ after = other ++ more) (single : mark ∉ piece) (otherSingle : mark ∉ other)
    (ends : ∀ x ∈ after.head?, x = mark) (otherEnds : ∀ x ∈ more.head?, x = mark) :
    piece = other := by
  rcases List.append_eq_append_iff.mp same with ⟨middle, rfl, rfl⟩ | ⟨middle, rfl, rfl⟩
  · cases middle with
    | nil => exact (List.append_nil _).symm
    | cons x middle =>
        obtain rfl := ends x rfl
        simp at otherSingle
  · cases middle with
    | nil => exact List.append_nil _
    | cons x middle =>
        obtain rfl := otherEnds x rfl
        simp at single

/-- What stands behind the last mark is the last piece. -/
theorem exists_before_of_splitOn {α : Type} [DecidableEq α] (mark : α) (whole : List α) :
    ∃ before piece, (whole.splitOn mark).getLast? = some piece ∧ whole = before ++ piece ∧
      ∀ x ∈ before.getLast?, x = mark := by
  induction whole using cut_induction mark with
  | last whole single =>
      refine ⟨[], whole, ?_, (List.nil_append _).symm, by simp⟩
      rw [List.splitOn_eq_singleton single, List.getLast?_singleton]
  | cut first more single ih =>
      obtain ⟨before, piece, last, rfl, ends⟩ := ih
      refine ⟨first ++ mark :: before, piece, ?_, by simp, ?_⟩
      · rw [List.splitOn_append_cons_self_of_not_mem single, List.getLast?_cons, last]
        rfl
      · intro x mem
        rw [List.getLast?_append, List.getLast?_cons] at mem
        cases marked : before.getLast? with
        | none => simpa [marked, eq_comm] using mem
        | some y =>
            rw [marked] at mem
            exact ends x (marked.trans (by simpa using mem))

/-- The last piece is the end of the list without a mark in it that starts behind a mark or at the
start. -/
theorem getLast?_splitOn_iff {α : Type} [DecidableEq α] (mark : α) (whole piece : List α) :
    (whole.splitOn mark).getLast? = some piece ↔
      ∃ before, whole = before ++ piece ∧ (∀ x ∈ before.getLast?, x = mark) ∧ mark ∉ piece := by
  obtain ⟨before, last, here, rfl, ends⟩ := exists_before_of_splitOn mark whole
  have single := notMem_of_mem_splitOn mark (List.mem_of_getLast? here)
  constructor
  · intro again
    obtain rfl := Option.some.inj (here.symm.trans again)
    exact ⟨before, rfl, ends, single⟩
  · rintro ⟨other, same, otherEnds, otherSingle⟩
    have backwards := congrArg List.reverse same
    rw [List.reverse_append, List.reverse_append] at backwards
    have found : last.reverse = piece.reverse :=
      append_inj_of_ends backwards (by simpa using single) (by simpa using otherSingle)
        (by simpa [List.head?_reverse] using ends) (by simpa [List.head?_reverse] using otherEnds)
    rw [here, List.reverse_inj.mp found]

/-! ## Trimming -/

/-- `s` is what is left of `t` when the characters in `p` are dropped around it. -/
structure TrimsTo (p : Char → Bool) (t s : Text) : Prop where
  around : ∃ left right, t = left ++ s ++ right ∧ (∀ c ∈ left, p c = true) ∧
    ∀ c ∈ right, p c = true
  first : ∀ c ∈ s.head?, p c = false
  last : ∀ c ∈ s.getLast?, p c = false

theorem dropWhile_append_of_first (p : Char → Bool) {s : Text} (rest : Text)
    (first : ∀ c ∈ s.head?, p c = false) (nonempty : s ≠ []) :
    (s ++ rest).dropWhile p = s ++ rest := by
  obtain ⟨c, tail, rfl⟩ := List.exists_cons_of_ne_nil nonempty
  rw [List.cons_append, List.dropWhile_cons_of_neg]
  simp [first c rfl]

theorem head?_dropWhile (p : Char → Bool) (t : Text) :
    ∀ c ∈ (t.dropWhile p).head?, p c = false := by
  intro c first
  have stops := List.head?_dropWhile_not p t
  rw [Option.mem_def.mp first] at stops
  simpa using stops

theorem trimsTo_trimBy (p : Char → Bool) (t : Text) : TrimsTo p t (trimBy p t) := by
  have cut : t.dropWhile p = trimBy p t ++ ((t.dropWhile p).reverse.takeWhile p).reverse := by
    rw [trimBy, trimEndBy, trimStartBy, ← List.reverse_append, List.takeWhile_append_dropWhile,
      List.reverse_reverse]
  refine ⟨⟨t.takeWhile p, ((t.dropWhile p).reverse.takeWhile p).reverse, ?_, ?_, ?_⟩, ?_, ?_⟩
  · rw [List.append_assoc, ← cut, List.takeWhile_append_dropWhile]
  · exact fun c mem => List.mem_takeWhile_imp mem
  · exact fun c mem => List.mem_takeWhile_imp (List.mem_reverse.mp mem)
  · intro c first
    refine head?_dropWhile p t c ?_
    rw [cut, List.head?_append, Option.mem_def.mp first]
    rfl
  · intro c last
    rw [trimBy, trimEndBy, List.getLast?_reverse] at last
    exact head?_dropWhile p _ c last

theorem TrimsTo.trimBy_eq {p : Char → Bool} {t s : Text} (trims : TrimsTo p t s) :
    trimBy p t = s := by
  obtain ⟨⟨left, right, rfl, leftDropped, rightDropped⟩, first, last⟩ := trims
  rw [trimBy, trimStartBy, List.append_assoc, List.dropWhile_append_of_pos leftDropped]
  by_cases nothing : s = []
  · subst nothing
    rw [List.nil_append, List.dropWhile_eq_nil_iff.mpr rightDropped]
    rfl
  · have backwards : s.reverse ≠ [] := by simpa using nothing
    rw [dropWhile_append_of_first p right first nothing, trimEndBy, List.reverse_append,
      List.dropWhile_append_of_pos (by simpa using rightDropped), ← List.append_nil s.reverse,
      dropWhile_append_of_first p [] (by simpa using last) backwards, List.append_nil,
      List.reverse_reverse]

/-- What trimming leaves is the one text with solid ends between two runs of what is dropped. -/
theorem trimBy_eq_iff (p : Char → Bool) (t s : Text) : trimBy p t = s ↔ TrimsTo p t s :=
  ⟨fun same => same ▸ trimsTo_trimBy p t, TrimsTo.trimBy_eq⟩

theorem trimBy_eq_self_of_ends (p : Char → Bool) (t : Text) (first : ∀ c ∈ t.head?, p c = false)
    (last : ∀ c ∈ t.getLast?, p c = false) : trimBy p t = t :=
  (trimBy_eq_iff p t t).mpr ⟨⟨[], [], by simp, by simp, by simp⟩, first, last⟩

theorem trimBy_eq_self (p : Char → Bool) (t : Text) (solid : ∀ c ∈ t, p c = false) :
    trimBy p t = t :=
  trimBy_eq_self_of_ends p t (fun c first => solid c (List.mem_of_mem_head? first))
    fun c last => solid c (List.mem_of_mem_getLast? last)

theorem trimBy_eq_nil_iff (p : Char → Bool) (t : Text) :
    trimBy p t = [] ↔ ∀ c ∈ t, p c = true := by
  rw [trimBy_eq_iff]
  constructor
  · rintro ⟨⟨left, right, rfl, leftDropped, rightDropped⟩, -, -⟩ c mem
    rw [List.append_nil, List.mem_append] at mem
    exact mem.elim (leftDropped c) (rightDropped c)
  · exact fun dropped => ⟨⟨t, [], by simp, dropped, by simp⟩, by simp, by simp⟩

theorem trim_eq_nil_iff (t : Text) : trim t = [] ↔ ∀ c ∈ t, isBlank c = true :=
  trimBy_eq_nil_iff isBlank t

theorem trim_subset (t : Text) : trim t ⊆ t := by
  obtain ⟨⟨left, right, cut, -, -⟩, -, -⟩ := trimsTo_trimBy isBlank t
  intro c mem
  rw [cut]
  exact List.mem_append_left right (List.mem_append_right left mem)

theorem trim_trim (t : Text) : trim (trim t) = trim t := by
  obtain ⟨-, first, last⟩ := trimsTo_trimBy isBlank t
  exact trimBy_eq_self_of_ends isBlank _ first last

/-- Only the ends of a text matter for trimming it. -/
theorem trim_append {s t : Text} (middle : Text) (someS : s ≠ []) (someT : t ≠ [])
    (trimmedS : trim s = s) (trimmedT : trim t = t) :
    trim (s ++ middle ++ t) = s ++ middle ++ t := by
  obtain ⟨-, first, -⟩ := (trimBy_eq_iff isBlank s s).mp trimmedS
  obtain ⟨-, -, last⟩ := (trimBy_eq_iff isBlank t t).mp trimmedT
  refine trimBy_eq_self_of_ends isBlank _ ?_ ?_
  · obtain ⟨c, rest, rfl⟩ := List.exists_cons_of_ne_nil someS
    exact first
  · rw [List.getLast?_append, List.getLast?_eq_some_getLast someT]
    rwa [List.getLast?_eq_some_getLast someT] at last

/-- Blanks around a text do not matter for trimming it. -/
theorem trim_surround {left right : Text} (leftBlank : ∀ c ∈ left, isBlank c = true)
    (rightBlank : ∀ c ∈ right, isBlank c = true) (t : Text) :
    trim (left ++ t ++ right) = trim t := by
  obtain ⟨⟨before, after, cut, beforeBlank, afterBlank⟩, first, last⟩ := trimsTo_trimBy isBlank t
  refine TrimsTo.trimBy_eq ⟨⟨left ++ before, after ++ right, ?_, ?_, ?_⟩, first, last⟩
  · calc left ++ t ++ right
        = left ++ (before ++ trim t ++ after) ++ right := by rw [trim, ← cut]
      _ = left ++ before ++ trim t ++ (after ++ right) := by simp only [List.append_assoc]
  · intro c mem
    rcases List.mem_append.mp mem with outer | inner
    · exact leftBlank c outer
    · exact beforeBlank c inner
  · intro c mem
    rcases List.mem_append.mp mem with inner | outer
    · exact afterBlank c inner
    · exact rightBlank c outer

theorem trim_append_blanks {blanks : Text} (blank : ∀ c ∈ blanks, isBlank c = true) (t : Text) :
    trim (t ++ blanks) = trim t := by
  have none : ∀ c ∈ ([] : Text), isBlank c = true := by simp
  have whole := trim_surround none blank t
  rwa [List.nil_append] at whole

theorem trim_blanks_append {blanks : Text} (blank : ∀ c ∈ blanks, isBlank c = true) (t : Text) :
    trim (blanks ++ t) = trim t := by
  have none : ∀ c ∈ ([] : Text), isBlank c = true := by simp
  have whole := trim_surround blank none t
  rwa [List.append_nil] at whole

/-- Around a mark that is no blank, each side is trimmed by itself. -/
theorem trim_cut {mark : Char} (solid : isBlank mark = false) (left right : Text) :
    trim (left ++ mark :: right) =
      trimStartBy isBlank left ++ mark :: trimEndBy isBlank right := by
  have keeps : ∀ s t : Text, (s ++ mark :: t).dropWhile isBlank =
      s.dropWhile isBlank ++ mark :: t := by
    intro s t
    rw [List.dropWhile_append, List.dropWhile_cons_of_neg (by simp [solid])]
    split
    · rename_i empty
      rw [List.isEmpty_iff.mp empty, List.nil_append]
    · rfl
  rw [trim, trimBy, trimStartBy, keeps, trimEndBy, List.reverse_append, List.reverse_cons,
    List.append_assoc, List.singleton_append, keeps]
  simp [trimStartBy, trimEndBy]

theorem trim_trimStartBy (t : Text) : trim (trimStartBy isBlank t) = trim t := by
  have blank : ∀ c ∈ t.takeWhile isBlank, isBlank c = true :=
    fun c mem => List.mem_takeWhile_imp mem
  have dropped := trim_blanks_append blank (trimStartBy isBlank t)
  rw [trimStartBy, List.takeWhile_append_dropWhile] at dropped
  exact dropped.symm

theorem trim_trimEndBy (t : Text) : trim (trimEndBy isBlank t) = trim t := by
  have cut : t = trimEndBy isBlank t ++ (t.reverse.takeWhile isBlank).reverse := by
    rw [trimEndBy, ← List.reverse_append, List.takeWhile_append_dropWhile, List.reverse_reverse]
  have blank : ∀ c ∈ (t.reverse.takeWhile isBlank).reverse, isBlank c = true :=
    fun c mem => List.mem_takeWhile_imp (List.mem_reverse.mp mem)
  have dropped := trim_append_blanks blank (trimEndBy isBlank t)
  rw [← cut] at dropped
  exact dropped.symm

/-- A mark that is no blank does not stand among blanks. -/
theorem notMem_of_blanks {blanks : Text} (blank : ∀ c ∈ blanks, isBlank c = true) {mark : Char}
    (solid : isBlank mark = false) : mark ∉ blanks := by
  intro mem
  have also := blank mark mem
  rw [solid] at also
  exact absurd also (by decide)

theorem trim_eq_self (t : Text) (solid : ∀ c ∈ t, isBlank c = false) : trim t = t :=
  trimBy_eq_self isBlank t solid

/-- No visible character of ASCII is a blank. -/
theorem isBlank_of_visible {c : Char} (low : 33 ≤ c.toNat) (high : c.toNat ≤ 126) :
    isBlank c = false := by
  simp only [isBlank, blankRanges, List.any_cons, List.any_nil, Bool.or_eq_false_iff,
    Bool.and_eq_false_iff, decide_eq_false_iff_not, and_true]
  omega

theorem isRunOf_iff (p : Char → Bool) (t : Text) :
    isRunOf p t = true ↔ t ≠ [] ∧ ∀ c ∈ t, p c = true := by
  simp [isRunOf]

end Multipage.Text
