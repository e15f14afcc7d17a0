/-
# Multipage.Proofs.Media.Declared -- the media types that may be declared

A text that `isMediaType` admits is two runs of media type characters with a slash between
them (`isMediaType_iff`).  None of these characters is a blank or a mark of the header
grammar, so nothing of such a text is cut away: it reads as a range without parameters
(`MediaRange.ofText?_of_halves`), and an Accept header that is nothing but the text has that
one range (`MediaRange.listOfAccept_of_halves`).  It can be sent in a header field
(`Halves.exists_headerValue`).
-/
import Multipage.Media.Range
import Multipage.Media.Type
import Multipage.Proofs.Text.Case
import Multipage.Proofs.Text.Utf8

namespace Multipage

set_option autoImplicit false

theorem isMediaTypeChar_iff (c : Char) :
    isMediaTypeChar c = true ↔
      c.toNat = 43 ∨ c.toNat = 45 ∨ c.toNat = 46 ∨ (48 ≤ c.toNat ∧ c.toNat ≤ 57) ∨
        (65 ≤ c.toNat ∧ c.toNat ≤ 90) ∨ (97 ≤ c.toNat ∧ c.toNat ≤ 122) := by
  have mark : ∀ d : Char, c = d ↔ c.toNat = d.toNat := fun d => Char.toNat_inj.symm
  simp only [isMediaTypeChar, Char.isAlphanum, Bool.or_eq_true, Text.isAlpha_iff,
    Text.isDigit_iff, beq_iff_eq, mark]
  simp only [show '.'.toNat = 46 from rfl, show '+'.toNat = 43 from rfl,
    show '-'.toNat = 45 from rfl]
  omega

theorem isBlank_of_isMediaTypeChar {c : Char} (h : isMediaTypeChar c = true) :
    Text.isBlank c = false := by
  have range := (isMediaTypeChar_iff c).mp h
  exact Text.isBlank_of_visible (by omega) (by omega)

/-- `t` is `type/subtype`, and both halves are runs of the characters of a media type. -/
structure Halves (t type subtype : Text) : Prop where
  text : t = type ++ '/' :: subtype
  type_run : Text.isRunOf isMediaTypeChar type = true
  subtype_run : Text.isRunOf isMediaTypeChar subtype = true

namespace Halves

variable {t type subtype : Text}

theorem slash_notMem (halves : Halves t type subtype) : '/' ∉ type := fun mem => by
  have char := ((Text.isRunOf_iff _ _).mp halves.type_run).2 '/' mem
  exact absurd char (by decide)

theorem splitOnce (halves : Halves t type subtype) :
    Text.splitOnce '/' t = some (type, subtype) := by
  rw [halves.text, Text.splitOnce_append _ _ _ halves.slash_notMem]

/-- Every character is a slash or one of a media type. -/
theorem char (halves : Halves t type subtype) {c : Char} (mem : c ∈ t) :
    c = '/' ∨ isMediaTypeChar c = true := by
  rw [halves.text, List.mem_append, List.mem_cons] at mem
  rcases mem with mem | rfl | mem
  · exact .inr (((Text.isRunOf_iff _ _).mp halves.type_run).2 c mem)
  · exact .inl rfl
  · exact .inr (((Text.isRunOf_iff _ _).mp halves.subtype_run).2 c mem)

theorem notMem (halves : Halves t type subtype) {mark : Char} (noSlash : mark ≠ '/')
    (noChar : isMediaTypeChar mark = false) : mark ∉ t := fun mem => by
  rcases halves.char mem with rfl | char
  · exact noSlash rfl
  · simp [noChar] at char

theorem ne_nil (halves : Halves t type subtype) : t ≠ [] := by
  rw [halves.text]
  simp

theorem solid (halves : Halves t type subtype) : ∀ c ∈ t, Text.isBlank c = false := by
  intro c mem
  rcases halves.char mem with rfl | char
  · decide
  · exact isBlank_of_isMediaTypeChar char

theorem trim (halves : Halves t type subtype) : Text.trim t = t :=
  Text.trim_eq_self t halves.solid

/-- Every character is printable ASCII. -/
theorem printable (halves : Halves t type subtype) {c : Char} (mem : c ∈ t) :
    32 ≤ c.toNat ∧ c.toNat < 127 := by
  rcases halves.char mem with rfl | char
  · decide
  · have range := (isMediaTypeChar_iff c).mp char
    omega

theorem ascii (halves : Halves t type subtype) : ∀ c ∈ t, c.toNat < 128 := by
  intro c mem
  have := halves.printable mem
  omega

/-- The text can be sent in a header field. -/
theorem exists_headerValue (halves : Halves t type subtype) :
    ∃ value, HeaderValue.ofText? t = some value := by
  have legal : (Utf8.encode t).all isHeaderByte = true := by
    rw [List.all_eq_true]
    intro b mem
    obtain ⟨c, here, same⟩ := Utf8.mem_encode_ascii halves.ascii mem
    have range := halves.printable here
    have low : (0x20 : UInt8) ≤ b := by
      rw [UInt8.le_iff_toNat_le, same]
      exact range.1
    have high : b ≠ 0x7F := by
      rintro rfl
      exact absurd same (by simp only [UInt8.reduceToNat]; omega)
    simp [isHeaderByte, low, high]
  exact ⟨⟨Utf8.encode t, legal⟩, by rw [HeaderValue.ofText?, HeaderValue.ofBytes?, dif_pos legal]⟩

end Halves

theorem HeaderValue.bytes_of_ofText? {t : Text} {value : HeaderValue}
    (made : HeaderValue.ofText? t = some value) : value.bytes = Utf8.encode t := by
  rw [HeaderValue.ofText?, HeaderValue.ofBytes?] at made
  split at made
  · exact (Option.some.inj made) ▸ rfl
  · simp at made

theorem HeaderValue.ofText?_eq_some_iff (t : Text) (value : HeaderValue) :
    ofText? t = some value ↔ value.bytes = Utf8.encode t := by
  constructor
  · exact bytes_of_ofText?
  · obtain ⟨bytes, legal⟩ := value
    rintro rfl
    rw [ofText?, ofBytes?, dif_pos legal]

theorem isMediaType_iff (t : Text) :
    isMediaType t = true ↔ ∃ type subtype, Halves t type subtype := by
  constructor
  · intro h
    unfold isMediaType at h
    split at h
    · rename_i type subtype cut
      rw [Bool.and_eq_true] at h
      exact ⟨type, subtype, ((Text.splitOnce_eq_some_iff ..).mp cut).1, h.1, h.2⟩
    · simp at h
  · rintro ⟨type, subtype, halves⟩
    simp [isMediaType, halves.splitOnce, halves.type_run, halves.subtype_run]

/-- A media type can be sent in a header field. -/
theorem HeaderValue.exists_of_isMediaType {t : Text} (isType : isMediaType t = true) :
    ∃ value, ofText? t = some value ∧ value.bytes = Utf8.encode t := by
  obtain ⟨type, subtype, halves⟩ := (isMediaType_iff t).mp isType
  obtain ⟨value, made⟩ := halves.exists_headerValue
  exact ⟨value, made, bytes_of_ofText? made⟩

namespace MediaRange

/-- A media type without parameters. -/
def plain (type subtype : Text) : MediaRange :=
  { type, subtype, parameters := [], quality := .one }

theorem trim_run {t : Text} (run : Text.isRunOf isMediaTypeChar t = true) : Text.trim t = t :=
  Text.trim_eq_self t fun c mem =>
    isBlank_of_isMediaTypeChar (((Text.isRunOf_iff _ _).mp run).2 c mem)

theorem ofText?_of_halves {t type subtype : Text} (halves : Halves t type subtype) :
    ofText? t = some (plain type subtype) := by
  have whole : t.splitOn ';' = [t] :=
    List.splitOn_eq_singleton (halves.notMem (by decide) (by decide))
  have noStar : t ≠ ['*'] := by
    rintro rfl
    exact halves.notMem (by decide) (by decide) (List.mem_singleton.mpr rfl)
  have named : names? t = some (type, subtype) := by
    have typeEmpty := ((Text.isRunOf_iff _ _).mp halves.type_run).1
    have subtypeEmpty := ((Text.isRunOf_iff _ _).mp halves.subtype_run).1
    simp [names?, noStar, halves.splitOnce, trim_run halves.type_run,
      trim_run halves.subtype_run, typeEmpty, subtypeEmpty]
  simp [ofText?, whole, halves.trim, named, qualityOf, plain]

theorem listOfAccept_of_halves {t type subtype : Text} (halves : Halves t type subtype) :
    listOfAccept t = [plain type subtype] := by
  have whole : t.splitOn ',' = [t] :=
    List.splitOn_eq_singleton (halves.notMem (by decide) (by decide))
  simp [listOfAccept, whole, halves.trim, halves.ne_nil, ofText?_of_halves halves]

end MediaRange
end Multipage
