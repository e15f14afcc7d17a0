/-
# Multipage.Proofs.Http.Uri -- the extension of a path

The last segment of a path starts behind its last slash, or at its start when it has none.  Its
extension is what follows the last point of this segment, when there is something on both sides
of that point (`Uri.HasExtension`).  So `/.html` and `/x.` have none, nor has `/x.html/`, and that
of `/a.b/x.tar.gz` is `gz`.  `Uri.extension?_eq_some_iff` says that it is what is looked up.
-/
import Multipage.Http.Uri
import Multipage.Proofs.Text.Cut

namespace Multipage.Uri

set_option autoImplicit false

/-- `extension` stands behind the last point of the last segment, and a non-empty stem before
it. -/
inductive HasExtension (uri : Uri) (extension : Text) : Prop where
  | intro (before stem : Text) (path : uri.path = before ++ stem ++ '.' :: extension)
      (start : ∀ c ∈ before.getLast?, c = '/') (segment : '/' ∉ stem ++ '.' :: extension)
      (last : '.' ∉ extension) (someStem : stem ≠ []) (someExtension : extension ≠ []) :
      HasExtension uri extension

/-- What is looked up as the extension is the extension. -/
theorem extension?_eq_some_iff (uri : Uri) (extension : Text) :
    uri.extension? = some extension ↔ uri.HasExtension extension := by
  have nonempty : uri.path.splitOn '/' ≠ [] := List.splitOn_ne_nil '/' uri.path
  obtain ⟨segment, isLast⟩ := Option.isSome_iff_exists.mp (List.getLast?_isSome.mpr nonempty)
  obtain ⟨before, path, start, noSlash⟩ := (Text.getLast?_splitOn_iff '/' _ _).mp isLast
  simp only [extension?, isLast, Option.getD_some]
  constructor
  · intro found
    split at found
    next stem last cut =>
      obtain ⟨rfl, noPoint⟩ := (Text.splitLast_eq_some_iff ..).mp cut
      split_ifs at found with bothSides
      obtain rfl := Option.some.inj found
      obtain ⟨someStem, someExtension⟩ : stem ≠ [] ∧ last ≠ [] := by simpa using bothSides
      exact .intro before stem (by rw [path, List.append_assoc]) start noSlash noPoint someStem
        someExtension
    · cases found
  · rintro ⟨otherBefore, stem, otherPath, otherStart, otherNoSlash, noPoint, someStem,
      someExtension⟩
    have again : (uri.path.splitOn '/').getLast? = some (stem ++ '.' :: extension) :=
      (Text.getLast?_splitOn_iff '/' _ _).mpr
        ⟨otherBefore, by rw [otherPath, List.append_assoc], otherStart, otherNoSlash⟩
    obtain rfl := Option.some.inj (isLast.symm.trans again)
    have cut : Text.splitLast '.' (stem ++ '.' :: extension) = some (stem, extension) :=
      (Text.splitLast_eq_some_iff ..).mpr ⟨rfl, noPoint⟩
    simp [cut, someStem, someExtension]

/-- A path without an extension is one of which none is looked up. -/
theorem extension?_eq_none_iff (uri : Uri) :
    uri.extension? = none ↔ ∀ extension, ¬uri.HasExtension extension := by
  rw [Option.eq_none_iff_forall_ne_some]
  exact forall_congr' fun extension => not_congr (uri.extension?_eq_some_iff extension)

theorem root_not_hasExtension (extension : Text) : ¬root.HasExtension extension :=
  root.extension?_eq_none_iff.mp rfl extension

end Multipage.Uri
