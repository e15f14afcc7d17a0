/-
# Multipage.Proofs.Media.Exclusion -- an element that refuses one type

The element `t;q=0` names `t`, so where no other element names it, it judges `t` whatever stars
speak of it, and refuses it (`Score.of?_refusing`).  It covers no other type, so all others keep
their scores, and the choice is the one among the others (`bestMatch?_refusing`).  The others
stand at other places in the shorter list: the place of a type among those that are kept is the
number of kept types before it (`zipIdx_filter`).
-/
import Mathlib.Data.List.Induction
import Multipage.Proofs.Media.Precedence
import Multipage.Proofs.Media.Reading

namespace Multipage

set_option autoImplicit false

/-! ## Kept elements and their places -/

/-- Every kept element stands where as many kept ones are before it. -/
theorem zipIdx_filter {α : Type} (keep : α → Bool) (as : List α) :
    (as.filter keep).zipIdx =
      (as.zipIdx.filter fun entry => keep entry.1).map fun entry =>
        (entry.1, (as.take entry.2).countP keep) := by
  induction as using List.reverseRecOn with
  | nil => rfl
  | append_singleton as a ih =>
      have early : ((as.zipIdx.filter fun entry => keep entry.1).map fun entry =>
            (entry.1, ((as ++ [a]).take entry.2).countP keep)) =
          (as.filter keep).zipIdx := by
        rw [ih]
        refine List.map_congr_left fun entry mem => ?_
        have within : entry.2 ≤ as.length :=
          (List.snd_lt_of_mem_zipIdx (List.mem_filter.mp mem).1).le
        rw [List.take_append_of_le_length within]
      rw [List.filter_append, List.zipIdx_append, List.zipIdx_append, List.filter_append,
        List.map_append, early]
      cases kept : keep a with
      | false => simp [kept]
      | true => simp [kept, List.countP_eq_length_filter]

/-- So a kept element is found there. -/
theorem getElem?_filter {α : Type} {keep : α → Bool} {as : List α} {index : Nat} {a : α}
    (here : as[index]? = some a) (kept : keep a = true) :
    (as.filter keep)[(as.take index).countP keep]? = some a := by
  have mem : (a, index) ∈ as.zipIdx := List.mem_zipIdx_iff_getElem?.mpr here
  have keptMem : (a, (as.take index).countP keep) ∈ (as.filter keep).zipIdx := by
    rw [zipIdx_filter]
    exact List.mem_map.mpr ⟨(a, index), List.mem_filter.mpr ⟨mem, kept⟩, rfl⟩
  exact List.mem_zipIdx_iff_getElem?.mp keptMem

/-! ## A range that refuses a type -/

/-- The quality of what is refused. -/
def Quality.zero : Quality := ⟨0, Nat.zero_le _⟩

namespace MediaRange

/-- A media type without parameters and with the quality zero. -/
def refusing (type subtype : Text) : MediaRange := { plain type subtype with quality := .zero }

theorem ofText?_refusing {t type subtype : Text} (halves : Halves t type subtype) :
    ofText? (t ++ ";q=0") = some (refusing type subtype) := by
  have single : ';' ∉ t := halves.notMem (by decide) (by decide)
  have named : names? (Text.trim t) = some (type, subtype) := by
    rw [halves.text]
    exact names?_slash ((Text.isRunOf_iff ..).mp halves.type_run).1
      ((Text.isRunOf_iff ..).mp halves.subtype_run).1 (trim_run halves.type_run)
      (trim_run halves.subtype_run) halves.slash_notMem
  have parameters : (("q=0".toList.splitOn ';').filterMap parameter?) =
      [("q".toList, "0".toList)] := by decide
  have quality : qualityOf [("q".toList, "0".toList)] = .zero := by decide +kernel
  rw [show t ++ ";q=0".toList = t ++ ';' :: "q=0".toList from rfl, ofText?_append single, named,
    Option.map_some, assemble, parameters, quality]
  rfl

/-- A range that does not cover a type has no part in what is decided about it. -/
theorem deciding?_of_not_covers {target range : MediaRange} (spared : range.covers target = false)
    (before after : List MediaRange) :
    target.deciding? (before ++ range :: after) = target.deciding? (before ++ after) := by
  have dropped : (range :: after).filter (fun r => r.covers target) =
      after.filter fun r => r.covers target := List.filter_cons_of_neg (by simp [spared])
  rw [deciding?, deciding?, List.filter_append, List.filter_append, dropped]

end MediaRange

section Refused

variable {t type subtype : Text} (halves : Halves t type subtype)

include halves

/-- Types that are alike are named by the same ranges. -/
theorem Halves.named_admits_congr {u : Text} (declared : isMediaType u = true)
    (alike : Text.eqIgnoringCase t u = true) (range : MediaRange) :
    RangeClass.named.admits range u = RangeClass.named.admits range t := by
  obtain ⟨otherType, otherSubtype, other⟩ := (isMediaType_iff u).mp declared
  rw [halves.text, other.text, Text.eqIgnoringCase_cut_iff '/' (by decide) halves.slash_notMem
    other.slash_notMem, Text.eqIgnoringCase_iff, Text.eqIgnoringCase_iff] at alike
  rw [halves.admits_eq, other.admits_eq]
  simp only [RangeClass.relates, MediaRange.sameType, MediaRange.sameSubtype, MediaRange.plain,
    Text.eqIgnoringCase, alike.1, alike.2]

theorem Halves.score_eq_none_of_refused {ranges : List MediaRange} (refused : Refused ranges t) :
    Score.of? ranges t = none := by
  rw [Option.eq_none_iff_forall_ne_some]
  intro score scored
  obtain ⟨target, range, read, decides, positive, -⟩ := (Score.of?_eq_some_iff ..).mp scored
  obtain rfl : MediaRange.plain type subtype = target :=
    Option.some.inj ((MediaRange.ofText?_of_halves halves).symm.trans read)
  obtain ⟨c, judged⟩ := (decides_iff_judgedBy halves ranges range).mp decides
  exact positive.ne' (refused c range judged)

variable {before after : List MediaRange}
  (unnamed : ∀ range ∈ before ++ after, RangeClass.named.admits range t = false)

include unnamed

/-- Where no other range names a type, the one that refuses it judges it and all types alike. -/
theorem Halves.refused_of_alike {u : Text} (declared : isMediaType u = true)
    (alike : Text.eqIgnoringCase t u = true) :
    Refused (before ++ .refusing type subtype :: after) u := by
  intro c range judged
  have names : RangeClass.named.admits (.refusing type subtype) u = true :=
    (halves.admits_iff_of_names rfl rfl declared .named).mpr ⟨rfl, alike⟩
  have most : RangeClass.named ≤ c := judged.1 (.refusing type subtype) (by simp) .named names
  obtain rfl : c = .named := by
    cases c with
    | named => rfl
    | anything | anyType | anySubtype => exact absurd most (by decide)
  have admits := judged.admits
  rw [halves.named_admits_congr declared alike] at admits
  obtain ⟨-, left, right, cut, -⟩ := judged
  have mem : range ∈ before ++ .refusing type subtype :: after := by simp [cut]
  rcases List.mem_append.mp mem with early | later
  · have other := unnamed range (List.mem_append_left _ early)
    simp [other] at admits
  · rcases List.mem_cons.mp later with rfl | late
    · rfl
    · have other := unnamed range (List.mem_append_right _ late)
      simp [other] at admits

/-- A range that refuses a type leaves the scores of all others as they are. -/
theorem Score.of?_refusing {u : Text} (declared : isMediaType u = true) :
    Score.of? (before ++ .refusing type subtype :: after) u =
      if Text.eqIgnoringCase t u then none else Score.of? (before ++ after) u := by
  obtain ⟨otherType, otherSubtype, other⟩ := (isMediaType_iff u).mp declared
  by_cases alike : Text.eqIgnoringCase t u = true
  · rw [if_pos alike]
    exact other.score_eq_none_of_refused (halves.refused_of_alike unnamed declared alike)
  · have spared : (MediaRange.refusing type subtype).covers (.plain otherType otherSubtype) =
        false := by
      rw [Bool.eq_false_iff]
      intro covers
      obtain ⟨c, admits⟩ := (covers_plain_iff other _).mp covers
      exact alike ((halves.admits_iff_of_names rfl rfl declared c).mp admits).2
    rw [if_neg alike, Score.of?, Score.of?, MediaRange.ofText?_of_halves other, Option.bind_some,
      Option.bind_some, MediaRange.deciding?_of_not_covers spared]

end Refused

/-! ## The choice -/

section Kept

/- By `narrower` some types have no score, and the others have the one that they have by
`accept`. -/
variable {types : List Text} {accept narrower : Text} {keep : Text → Bool}
  (scores : ∀ u ∈ types, Score.of? (MediaRange.listOfAccept narrower) u =
    if keep u then Score.of? (MediaRange.listOfAccept accept) u else none)

include scores

theorem acceptableAt_narrower_iff (index : Nat) (score : Score) :
    AcceptableAt types narrower index score ↔
      AcceptableAt types accept index score ∧ ∀ u, types[index]? = some u → keep u = true := by
  rw [acceptableAt_iff_score, acceptableAt_iff_score]
  constructor
  · rintro ⟨u, here, scored⟩
    rw [scores u (List.mem_of_getElem? here), Option.ite_none_right_eq_some] at scored
    obtain ⟨kept, scored⟩ := scored
    refine ⟨⟨u, here, scored⟩, ?_⟩
    intro other alsoHere
    obtain rfl := Option.some.inj (here.symm.trans alsoHere)
    exact kept
  · rintro ⟨⟨u, here, scored⟩, kept⟩
    refine ⟨u, here, ?_⟩
    rw [scores u (List.mem_of_getElem? here), if_pos (kept u here), scored]

/-- The acceptable types are those of the shorter list, where each stands at the number of kept
types before it. -/
theorem acceptableTypes_filter :
    acceptableTypes (types.filter keep) accept =
      (acceptableTypes types narrower).map fun entry =>
        ((types.take entry.1).countP keep, entry.2) := by
  rw [acceptableTypes, acceptableTypes, zipIdx_filter, List.filterMap_map, List.filterMap_filter,
    List.map_filterMap]
  apply List.filterMap_congr
  rintro ⟨u, index⟩ mem
  have here : u ∈ types := List.fst_mem_of_mem_zipIdx mem
  simp only [Function.comp_apply, scores u here]
  cases keep u with
  | false => rfl
  | true =>
      simp only [if_true, Option.map_map]
      rfl

theorem bestMatch?_filter :
    bestMatch? (types.filter keep) accept =
      (bestMatch? types narrower).map fun index => (types.take index).countP keep := by
  rw [bestMatch?, bestMatch?, acceptableTypes_filter scores, firstGreatest_map _ (fun _ _ => rfl),
    Option.map_map, Option.map_map]
  rfl

/-- The entry that is chosen is the same. -/
theorem chosenEntry_filter :
    ((bestMatch? (types.filter keep) accept).bind fun index => (types.filter keep)[index]?) =
      (bestMatch? types narrower).bind fun index => types[index]? := by
  rw [bestMatch?_filter scores]
  cases chosen : bestMatch? types narrower with
  | none => rfl
  | some index =>
      obtain ⟨score, acceptable, -⟩ := (bestMatch?_eq_some_iff ..).mp chosen
      obtain ⟨⟨u, _, _, here, -⟩, kept⟩ :=
        (acceptableAt_narrower_iff scores index score).mp acceptable
      rw [Option.map_some, Option.bind_some, Option.bind_some, here,
        getElem?_filter here (kept u here)]

end Kept

/-- An element that refuses a type is read among the parts around it. -/
theorem listOfAccept_refusing {t type subtype : Text} (halves : Halves t type subtype)
    (before after : List Text) :
    MediaRange.listOfAccept (Text.join [','] (before ++ (t ++ ";q=0") :: after)) =
      before.flatMap MediaRange.listOfAccept ++
        .refusing type subtype :: after.flatMap MediaRange.listOfAccept := by
  have noComma : ',' ∉ t := halves.notMem (by decide) (by decide)
  have single : ',' ∉ t ++ ";q=0".toList := by simp [noComma]
  rw [MediaRange.listOfAccept_join, List.flatMap_append, List.flatMap_cons,
    MediaRange.listOfAccept_of_notMem single, MediaRange.ofText?_trim,
    MediaRange.ofText?_refusing halves]
  rfl

/-- **The element `t;q=0` removes the type `t` and changes nothing else.**  Let the declared type
`t` be named by no range of a header.  With `t;q=0` put between any two of its parts, or before or
behind all of them, the header admits the types that it admitted before, with their scores, except
those that are `t` in letters of any case.  So it chooses among all types, at its place there, what
the old header chooses among the others; and nothing where the old header chooses nothing. -/
theorem bestMatch?_refusing {types before after : List Text} {accept t : Text}
    (declared : ∀ u ∈ types, isMediaType u = true) (wellFormed : isMediaType t = true)
    (parts : accept = Text.join [','] (before ++ after))
    (unnamed : ∀ range ∈ MediaRange.listOfAccept accept,
      RangeClass.named.admits range t = false) :
    let refusing := Text.join [','] (before ++ (t ++ ";q=0") :: after)
    let differs := fun u => !Text.eqIgnoringCase t u
    (∀ index score, AcceptableAt types refusing index score ↔
      AcceptableAt types accept index score ∧ ∀ u, types[index]? = some u → differs u = true) ∧
    bestMatch? (types.filter differs) accept =
      (bestMatch? types refusing).map (fun index => (types.take index).countP differs) ∧
    ((bestMatch? (types.filter differs) accept).bind fun index =>
        (types.filter differs)[index]?) =
      (bestMatch? types refusing).bind fun index => types[index]? := by
  intro refusing differs
  obtain ⟨type, subtype, halves⟩ := (isMediaType_iff t).mp wellFormed
  have old : MediaRange.listOfAccept accept =
      before.flatMap MediaRange.listOfAccept ++ after.flatMap MediaRange.listOfAccept := by
    rw [parts, MediaRange.listOfAccept_join, List.flatMap_append]
  have new := listOfAccept_refusing halves before after
  rw [old] at unnamed
  have scores : ∀ u ∈ types, Score.of? (MediaRange.listOfAccept refusing) u =
      if differs u then Score.of? (MediaRange.listOfAccept accept) u else none := by
    intro u mem
    rw [old, new, Score.of?_refusing halves unnamed (declared u mem)]
    cases alike : Text.eqIgnoringCase t u <;> simp [differs, alike]
  exact ⟨acceptableAt_narrower_iff scores, bestMatch?_filter scores, chosenEntry_filter scores⟩

/-- The refused type stands twice before the one that is chosen: this is the third in the whole
list and the first among the others. -/
theorem bestMatch?_refusing_twice :
    let types : List Text := ["text/html".toList, "TEXT/html".toList, "text/plain".toList]
    let differs := fun u => !Text.eqIgnoringCase "text/HTML".toList u
    bestMatch? types "text/*;q=0.5,text/HTML;q=0,*".toList = some 2 ∧
      bestMatch? (types.filter differs) "text/*;q=0.5,*".toList = some 0 := by
  intro types differs
  have declared : ∀ u ∈ types, isMediaType u = true := by decide
  have wellFormed : isMediaType "text/HTML".toList = true := by decide
  have parts : "text/*;q=0.5,*".toList = Text.join [','] (["text/*;q=0.5".toList] ++ [['*']]) := by
    decide
  have unnamed : ∀ range ∈ MediaRange.listOfAccept "text/*;q=0.5,*".toList,
      RangeClass.named.admits range "text/HTML".toList = false := by decide +kernel
  obtain ⟨-, places, -⟩ := bestMatch?_refusing declared wellFormed parts unnamed
  have chosen : bestMatch? types "text/*;q=0.5,text/HTML;q=0,*".toList = some 2 := by
    decide +kernel
  exact ⟨chosen, places.trans (congrArg (Option.map _) chosen)⟩

end Multipage
