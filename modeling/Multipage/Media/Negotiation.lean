/-
# Multipage.Media.Negotiation -- the choice among the available media types

For each available type the ranges that cover it are looked at, and the earliest of greatest
fitness decides: its fitness and its quality are the type's score.  A type that no range
covers, or whose deciding range has quality 0, is not acceptable.  Of the acceptable types the
earliest of greatest score is chosen, fitness before quality.

Without an Accept value the first available type is chosen.
-/
import Multipage.Media.Range
import Multipage.Message

namespace Multipage

set_option autoImplicit false

/-- The earliest element that none exceeds. -/
def firstGreatest {α : Type} (exceeds : α → α → Bool) : List α → Option α
  | [] => none
  | first :: rest => some (rest.foldl (fun best a => if exceeds a best then a else best) first)

/-- The range that decides about `target`: the earliest of greatest fitness that covers it. -/
def MediaRange.deciding? (target : MediaRange) (ranges : List MediaRange) : Option MediaRange :=
  firstGreatest (fun a b => decide (b.fitness target < a.fitness target))
    (ranges.filter fun range => range.covers target)

/-- How good an available type is for a request. -/
structure Score where
  fitness : Nat
  quality : Quality
  deriving DecidableEq

namespace Score

/-- Fitness before quality. -/
def exceeds (a b : Score) : Bool :=
  b.fitness < a.fitness || (a.fitness == b.fitness && b.quality.units < a.quality.units)

/-- The score of an available type, when it is one and it is acceptable. -/
def of? (ranges : List MediaRange) (available : Text) : Option Score :=
  (MediaRange.ofText? available).bind fun target =>
    (target.deciding? ranges).bind fun range =>
      if range.quality.isZero then none
      else some { fitness := range.fitness target, quality := range.quality }

end Score

/-- No available media type is acceptable. -/
structure NotAcceptable where
  available : List Text
  deriving DecidableEq

namespace NotAcceptable

def message (e : NotAcceptable) : Text :=
  "The following media types are available: " ++ Text.join ", " e.available ++ "."

/-- The answer that lists what is available. -/
def response (e : NotAcceptable) : Response :=
  (Response.ofText .notAcceptable e.message).setHeader .contentType .plainText

end NotAcceptable

/-- The acceptable types with their places and scores. -/
def acceptableTypes (available : List Text) (accept : Text) : List (Nat × Score) :=
  let ranges := MediaRange.listOfAccept accept
  available.zipIdx.filterMap fun (t, index) => (Score.of? ranges t).map fun score => (index, score)

/-- The place of the available type that fits `accept` best. -/
def bestMatch? (available : List Text) (accept : Text) : Option Nat :=
  (firstGreatest (fun a b => a.2.exceeds b.2) (acceptableTypes available accept)).map Prod.fst

/-- The place of the type to answer with. -/
def negotiate (available : List Text) (accept : Option Text) : Except NotAcceptable Nat :=
  let choice :=
    match accept with
    | none => if available.isEmpty then none else some 0
    | some accept => bestMatch? available accept
  match choice with
  | some index => .ok index
  | none => .error ⟨available⟩

end Multipage
