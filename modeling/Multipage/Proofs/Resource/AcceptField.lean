/-
# Multipage.Proofs.Resource.AcceptField -- an Accept field of any bytes

A header value is bytes, and the bytes of an Accept field need not be a text.  What cannot be
decoded becomes U+FFFD, which is no blank: so a field counts as absent only when it decodes to
blanks and is the encoding of them (`Request.accept?_eq_none_iff`).

A comma is one byte and stands in no longer sequence.  So the ranges of a field are those of its
pieces between commas, each decoded by itself (`MediaRange.listOfBytes_splitOn`), also where a
comma comes in the middle of a sequence, and nothing in one piece tells on the ranges of another
(`Request.acceptRanges_piece_by_piece`).
-/
import Multipage.Proofs.Media.Order
import Multipage.Proofs.Media.Reading
import Multipage.Proofs.Resource.Selection
import Multipage.Proofs.Text.Lossy

namespace Multipage

set_option autoImplicit false

/-! ## Pieces -/

namespace MediaRange

/-- The byte between two elements of a header. -/
def commaByte : UInt8 := 0x2C

/-- The ranges that are read from bytes by themselves. -/
def listOfBytes (piece : Bytes) : List MediaRange := listOfAccept (Utf8.decodeLossy piece)

/-- Pieces that are joined by commas have their ranges in their order. -/
theorem listOfBytes_intercalate (pieces : List Bytes) :
    listOfBytes ([commaByte].intercalate pieces) = pieces.flatMap listOfBytes := by
  have ascii : commaByte < 0x80 := by decide
  rw [listOfBytes, Utf8.decodeLossy_intercalate ascii]
  exact (listOfAccept_join _).trans (List.flatMap_map ..)

theorem listOfBytes_splitOn (bytes : Bytes) :
    listOfBytes bytes = (bytes.splitOn commaByte).flatMap listOfBytes := by
  rw [← listOfBytes_intercalate, List.intercalate_splitOn]

/-- Blanks have no ranges. -/
theorem listOfAccept_of_blank {blanks : Text} (blank : ∀ c ∈ blanks, Text.isBlank c = true) :
    listOfAccept blanks = [] := by
  have noComma : ',' ∉ blanks := Text.notMem_of_blanks blank (by decide)
  rw [listOfAccept_of_notMem noComma, (Text.trim_eq_nil_iff blanks).mpr blank, ofText?_nil]
  rfl

end MediaRange

/-! ## The field -/

/-- Bytes that decode to blanks are the encoding of blanks. -/
theorem Utf8.blank_decodeLossy_iff (bytes : Bytes) :
    (∀ c ∈ decodeLossy bytes, Text.isBlank c = true) ↔
      ∃ blanks, encode blanks = bytes ∧ ∀ c ∈ blanks, Text.isBlank c = true := by
  constructor
  · intro blank
    have whole : '\uFFFD' ∉ decodeLossy bytes := Text.notMem_of_blanks blank (by decide)
    exact ⟨_, encode_decodeLossy whole, blank⟩
  · rintro ⟨blanks, rfl, blank⟩
    rwa [decodeLossy_encode]

namespace Request

/-- The ranges that negotiation reads from the Accept field of a request. -/
def acceptRanges (request : Request) : List MediaRange :=
  request.accept?.elim [] MediaRange.listOfAccept

section Field

variable {request : Request} {value : HeaderValue} {more : List HeaderValue}
  (first : request.headers.getAll .accept = value :: more)

include first

/-- A field that is there counts, unless it is blank. -/
theorem accept?_cases :
    (request.accept? = some (Utf8.decodeLossy value.bytes) ∧
      ¬∀ c ∈ Utf8.decodeLossy value.bytes, Text.isBlank c = true) ∨
    (request.accept? = none ∧ ∀ c ∈ Utf8.decodeLossy value.bytes, Text.isBlank c = true) := by
  by_cases blank : ∀ c ∈ Utf8.decodeLossy value.bytes, Text.isBlank c = true
  · refine .inr ⟨accept?_of_blank ?_, blank⟩
    intro other others same
    obtain ⟨rfl, -⟩ := List.cons.inj (first.symm.trans same)
    exact blank
  · refine .inl ⟨accept?_of_solid first ?_, blank⟩
    simpa using blank

/-- A field counts as absent exactly when its bytes are those of blanks. -/
theorem accept?_eq_none_iff :
    request.accept? = none ↔
      ∃ blanks, Utf8.encode blanks = value.bytes ∧ ∀ c ∈ blanks, Text.isBlank c = true := by
  rw [← Utf8.blank_decodeLossy_iff]
  rcases accept?_cases first with ⟨counts, solid⟩ | ⟨absent, blank⟩
  · simp only [counts, reduceCtorEq, false_iff]
    exact solid
  · simp only [absent, true_iff]
    exact blank

theorem acceptRanges_eq : request.acceptRanges = MediaRange.listOfBytes value.bytes := by
  rcases accept?_cases first with ⟨counts, -⟩ | ⟨absent, blank⟩
  · rw [acceptRanges, counts]
    rfl
  · rw [acceptRanges, absent, MediaRange.listOfBytes, MediaRange.listOfAccept_of_blank blank]
    rfl

end Field

/-- **What cannot be decoded stays where it is.**  An Accept field counts as absent exactly when its
bytes are well-formed and those of blanks.  The ranges that are read from it are those of its pieces
between commas, in their order and each decoded by itself, with U+FFFD for every longest part that
is no character.  So when a piece is replaced by any bytes, the other pieces give the ranges that
they gave.  Negotiation reads nothing else: any header with these ranges chooses the same. -/
theorem acceptRanges_piece_by_piece {request : Request} {value : HeaderValue}
    {more : List HeaderValue} (first : request.headers.getAll .accept = value :: more) :
    (request.accept? = none ↔
      ∃ blanks, Utf8.encode blanks = value.bytes ∧ ∀ c ∈ blanks, Text.isBlank c = true) ∧
    (¬value.bytes.toByteArray.IsValidUTF8 → request.accept? ≠ none) ∧
    (∀ (bytes : Bytes) (text : Text), Utf8.Mends bytes text →
      MediaRange.listOfBytes bytes = MediaRange.listOfAccept text) ∧
    request.acceptRanges =
      (value.bytes.splitOn MediaRange.commaByte).flatMap MediaRange.listOfBytes ∧
    (∀ (before after : List Bytes) (piece replaced : Bytes) (other : Request)
        (otherValue : HeaderValue) (otherMore : List HeaderValue),
      value.bytes.splitOn MediaRange.commaByte = before ++ piece :: after →
      other.headers.getAll .accept = otherValue :: otherMore →
      otherValue.bytes = [MediaRange.commaByte].intercalate (before ++ replaced :: after) →
      request.acceptRanges = before.flatMap MediaRange.listOfBytes ++
          MediaRange.listOfBytes piece ++ after.flatMap MediaRange.listOfBytes ∧
        other.acceptRanges = before.flatMap MediaRange.listOfBytes ++
          MediaRange.listOfBytes replaced ++ after.flatMap MediaRange.listOfBytes) ∧
    ∀ (known : Text → Option Text) (resource : NegotiatedResource) (header : Text),
      (∀ extension, request.uri.extension? = some extension → known extension = none) →
      request.accept? ≠ none → MediaRange.listOfAccept header = request.acceptRanges →
      resource.select known request = negotiate resource.availableTypes (some header) := by
  have absent := accept?_eq_none_iff first
  have ranges : request.acceptRanges =
      (value.bytes.splitOn MediaRange.commaByte).flatMap MediaRange.listOfBytes := by
    rw [acceptRanges_eq first, ← MediaRange.listOfBytes_splitOn]
  refine ⟨absent, ?_, ?_, ranges, ?_, ?_⟩
  · intro illFormed none
    obtain ⟨blanks, same, -⟩ := absent.mp none
    exact illFormed ((Utf8.isValidUTF8_iff _).mpr ⟨blanks, (Utf8.decode?_eq_some_iff ..).mpr same⟩)
  · intro bytes text mends
    rw [MediaRange.listOfBytes, (Utf8.decodeLossy_eq_iff_mends bytes text).mpr mends]
  · intro before after piece replaced other otherValue otherMore pieces otherFirst bytes
    constructor
    · rw [ranges, pieces, List.flatMap_append, List.flatMap_cons, List.append_assoc]
    · rw [acceptRanges_eq otherFirst, bytes, MediaRange.listOfBytes_intercalate,
        List.flatMap_append, List.flatMap_cons, List.append_assoc]
  · intro known resource header unknown present same
    obtain ⟨accept, counts⟩ := Option.ne_none_iff_exists'.mp present
    have passed : request.uri.extension?.bind known = none := Option.bind_eq_none_iff.mpr unknown
    have choice : bestMatch? resource.availableTypes accept =
        bestMatch? resource.availableTypes header := by
      apply bestMatch?_congr
      intro t _
      rw [same, acceptRanges, counts]
      rfl
    simp only [NegotiatedResource.select, NegotiatedResource.acceptOf, passed, counts,
      Option.none_or, negotiate, choice]

/-- The first piece ends in the middle of a sequence, and the second is a lone continuation byte:
the field is there, and two ranges are read.  With another first piece the last range is the
same. -/
theorem acceptRanges_piece_by_piece_cut_short :
    let tail : Bytes := 0xBF :: Utf8.encode ",text/csv;q=0"
    let value : HeaderValue :=
      ⟨Utf8.encode "text/html;a=" ++ 0xE2 :: 0x82 :: 0x2C :: tail, by decide⟩
    let otherValue : HeaderValue := ⟨Utf8.encode "image/*," ++ tail, by decide⟩
    let request : Request := { headers := [(.accept, value)] }
    let other : Request := { headers := [(.accept, otherValue)] }
    ¬value.bytes.toByteArray.IsValidUTF8 ∧ request.accept? ≠ none ∧
      request.acceptRanges.map (fun range => (range.type, range.subtype)) =
        [("text".toList, "html".toList), ("text".toList, "csv".toList)] ∧
      other.acceptRanges.map (fun range => (range.type, range.subtype)) =
        [("image".toList, "*".toList), ("text".toList, "csv".toList)] := by
  intro tail value otherValue request other
  have first : request.headers.getAll .accept = [value] := rfl
  obtain ⟨-, present, -, ranges, replace, -⟩ := acceptRanges_piece_by_piece first
  have illFormed : ¬value.bytes.toByteArray.IsValidUTF8 := by
    rw [Utf8.isValidUTF8_iff]
    rintro ⟨text, decoded⟩
    have none : Utf8.decode? value.bytes = none := by decide +kernel
    rw [none] at decoded
    cases decoded
  let cutShort : Bytes := Utf8.encode "text/html;a=" ++ [0xE2, 0x82]
  obtain ⟨-, replaced⟩ := replace [] [[0xBF], Utf8.encode "text/csv;q=0"] cutShort
    (Utf8.encode "image/*") other otherValue [] (by decide +kernel) rfl (by decide)
  refine ⟨illFormed, present illFormed, ?_, ?_⟩
  · rw [ranges]
    decide +kernel
  · rw [replaced]
    decide +kernel

end Request
end Multipage
