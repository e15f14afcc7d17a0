/-
# Multipage.Resource.Kind -- the two kinds of resource

A path whose last name has the extension `json` is a JSON resource, one without an extension is
a negotiated resource, and any other extension is none.  The kind fixes how many pages a file
has and how many of them are logic pages.
-/
import Multipage.Path
import Multipage.Resource.Error

namespace Multipage

set_option autoImplicit false

inductive Kind where
  /-- Two logic pages and a JSON body. -/
  | json
  /-- One logic page and two or more content pages. -/
  | negotiated
  deriving DecidableEq, Repr

namespace Kind

/-- The kind that a path asks for. -/
def ofPath? (path : Text) : Option Kind :=
  match Path.extension? path with
  | none => some .negotiated
  | some extension => if extension = "json".toList then some .json else none

def minPages : Kind → Nat
  | .json => 2
  | .negotiated => 3

def maxPages? : Kind → Option Nat
  | .json => some 2
  | .negotiated => none

/-- How many leading pages are logic pages. -/
def logicPages : Kind → Nat
  | .json => 2
  | .negotiated => 1

def name : Kind → Text
  | .json => "JSON"
  | .negotiated => "negotiated"

/-- Which numbers of pages are allowed, in words. -/
def expectedPages (kind : Kind) : Text :=
  match kind.maxPages? with
  | some max =>
      if max = kind.minPages then
        kind.name ++ " resources need exactly " ++ Text.ofNat max
      else
        kind.name ++ " resources need " ++ Text.ofNat kind.minPages ++ " to " ++ Text.ofNat max
  | none => kind.name ++ " resources need at least " ++ Text.ofNat kind.minPages

/-- Whether a file of this kind may have that many pages. -/
def allows (kind : Kind) (count : Nat) : Bool :=
  kind.minPages ≤ count && kind.maxPages?.all (count ≤ ·)

end Kind
end Multipage
