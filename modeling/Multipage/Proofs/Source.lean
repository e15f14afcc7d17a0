/-
# Multipage.Proofs.Source -- decoding a file and cutting it into pages, in either order

The page break is one byte below 0x80, and such a byte stands in no longer sequence.  So a file
may be decoded as a whole and then cut, or cut at the byte and then decoded page by page:
`Source.ofBytes_eq_ofRawPages`.  When the file is ill-formed, both report the first page that is
ill-formed by itself (`Source.FirstIllFormed`), also when a page break or the end of the file
comes in the middle of a sequence.

A well-formed file and its pages say the same: the pages joined by page breaks are the file
again, and any pages without a page break in them are the pages of a file
(`Source.ofBytes_lossless`).
-/
import Multipage.Proofs.Text.Codec
import Multipage.Proofs.Text.Cut
import Multipage.Source

namespace Multipage.Source

set_option autoImplicit false

/-- The byte of the page break. -/
def pageBreakByte : UInt8 := 0x0C

/-- The place of the first piece that is not well-formed by itself. -/
def FirstIllFormed (pieces : List Bytes) (page : Nat) : Prop :=
  (∃ piece, pieces[page]? = some piece ∧ ¬piece.toByteArray.IsValidUTF8) ∧
    ∀ earlier ∈ pieces.take page, earlier.toByteArray.IsValidUTF8

theorem firstIllFormed_cons_iff (piece : Bytes) (rest : List Bytes) (page : Nat) :
    FirstIllFormed (piece :: rest) page ↔
      (page = 0 ∧ ¬piece.toByteArray.IsValidUTF8) ∨
        ∃ index, page = index + 1 ∧ piece.toByteArray.IsValidUTF8 ∧ FirstIllFormed rest index := by
  cases page with
  | zero => simp [FirstIllFormed]
  | succ index =>
      simp only [FirstIllFormed, List.getElem?_cons_succ, List.take_succ_cons, List.forall_mem_cons,
        Nat.add_right_cancel_iff, exists_eq_left']
      tauto

theorem decodePages_eq_error_iff (path : Text) (pieces : List Bytes) (error : SourceError) :
    ∀ page, decodePages path page pieces = .error error ↔
      ∃ index, FirstIllFormed pieces index ∧ error = .encoding path (page + index) := by
  induction pieces with
  | nil => simp [decodePages, FirstIllFormed]
  | cons piece rest ih =>
      intro page
      simp only [firstIllFormed_cons_iff]
      cases decoded : Utf8.decode? piece with
      | none =>
          have illFormed : ¬piece.toByteArray.IsValidUTF8 := by
            simp [Utf8.isValidUTF8_iff, decoded]
          simp [decodePages, decoded, illFormed, eq_comm]
      | some text =>
          have wellFormed : piece.toByteArray.IsValidUTF8 :=
            (Utf8.isValidUTF8_iff piece).mpr ⟨text, decoded⟩
          have later : decodePages path page (piece :: rest) = .error error ↔
              decodePages path (page + 1) rest = .error error := by
            rw [decodePages, decoded]
            cases decodePages path (page + 1) rest <;> simp [Except.map]
          rw [later, ih]
          constructor
          · rintro ⟨index, first, rfl⟩
            exact ⟨index + 1, .inr ⟨index, rfl, wellFormed, first⟩, by rw [Nat.add_right_comm]; rfl⟩
          · rintro ⟨_, ⟨-, illFormed⟩ | ⟨index, rfl, -, first⟩, rfl⟩
            · exact absurd wellFormed illFormed
            · exact ⟨index, first, by rw [Nat.add_right_comm]; rfl⟩

/-! ## Page by page and as a whole -/

/-- A page break is read from its byte only. -/
theorem pageBreak_notMem {piece : Bytes} (single : pageBreakByte ∉ piece) :
    pageBreak ∉ (Utf8.decodeUpToFault piece).1 := by
  intro mem
  refine single ?_
  rw [(Utf8.decodeUpToFault_spec piece).1]
  exact List.mem_append_left _ (List.mem_flatMap.mpr ⟨pageBreak, mem, by decide⟩)

theorem decodeUpToFault_pageBreak (more : Bytes) :
    Utf8.decodeUpToFault (pageBreakByte :: more) =
      (pageBreak :: (Utf8.decodeUpToFault more).1, (Utf8.decodeUpToFault more).2) :=
  Utf8.decodeUpToFault_encode_append [pageBreak] more

/-- The pages of a decoded file, or the page of its first fault, counted from `page`. -/
def pagesFrom (path : Text) (page : Nat) : Text × Bytes → Except SourceError (List Text)
  | (text, []) => .ok (text.splitOn pageBreak)
  | (text, _ :: _) => .error (.encoding path (page + text.count pageBreak))

/-- A whole page before a page break is the first page, and counts as one. -/
theorem pagesFrom_append (path : Text) (page : Nat) {text : Text} (single : pageBreak ∉ text)
    (read : Text × Bytes) :
    pagesFrom path page (text ++ pageBreak :: read.1, read.2) =
      (pagesFrom path (page + 1) read).map (text :: ·) := by
  obtain ⟨later, _ | ⟨b, undecoded⟩⟩ := read
  · simp [pagesFrom, List.splitOn_append_cons_self_of_not_mem single, Except.map]
  · simp [pagesFrom, List.count_eq_zero.mpr single, Except.map, Nat.add_comm, Nat.add_left_comm]

theorem decodePages_splitOn (path : Text) (raw : Bytes) :
    ∀ page, decodePages path page (raw.splitOn pageBreakByte) =
      pagesFrom path page (Utf8.decodeUpToFault raw) := by
  induction raw using Text.cut_induction pageBreakByte with
  | last piece single =>
      intro page
      have noBreak := pageBreak_notMem single
      rw [List.splitOn_eq_singleton single]
      rcases read : Utf8.decodeUpToFault piece with ⟨text, _ | ⟨b, undecoded⟩⟩ <;>
        rw [read] at noBreak
      · simp [decodePages, Utf8.decode?, read, pagesFrom, List.splitOn_eq_singleton noBreak,
          Except.map]
      · simp [decodePages, Utf8.decode?, read, pagesFrom, List.count_eq_zero.mpr noBreak]
  | cut piece more single ih =>
      intro page
      have noBreak := pageBreak_notMem single
      rw [List.splitOn_append_cons_self_of_not_mem single]
      rcases read : Utf8.decodeUpToFault piece with ⟨text, _ | ⟨b, undecoded⟩⟩ <;>
        rw [read] at noBreak
      · obtain ⟨bytes, -⟩ := Utf8.decodeUpToFault_spec piece
        rw [read, List.append_nil] at bytes
        have decoded : Utf8.decode? piece = some text := by simp [Utf8.decode?, read]
        rw [decodePages, decoded, ih, bytes, Utf8.decodeUpToFault_encode_append,
          decodeUpToFault_pageBreak, pagesFrom_append path page noBreak]
      · -- the fault is in this page, and what comes after the break cannot mend it
        have ascii : pageBreakByte < 0x80 := by decide
        have fault := Utf8.decodeUpToFault_append_stop ascii read more
        simp [decodePages, Utf8.decode?, read, fault, pagesFrom, List.count_eq_zero.mpr noBreak]

theorem ofBytes_eq (path : Text) (raw : Bytes) :
    ofBytes path raw =
      (pagesFrom path 0 (Utf8.decodeUpToFault raw)).map fun pages => ⟨path, pages⟩ := by
  rcases read : Utf8.decodeUpToFault raw with ⟨text, _ | ⟨b, undecoded⟩⟩ <;>
    simp [ofBytes, read, pagesFrom, Except.map]

theorem ofBytes_eq_ok_iff (path : Text) (raw : Bytes) (source : Source) :
    ofBytes path raw = .ok source ↔
      ∃ text, Utf8.encode text = raw ∧ source = ⟨path, text.splitOn pageBreak⟩ := by
  simp only [← Utf8.decode?_eq_some_iff]
  rcases read : Utf8.decodeUpToFault raw with ⟨text, _ | ⟨b, undecoded⟩⟩ <;>
    simp [ofBytes, Utf8.decode?, read, eq_comm]

theorem ofBytes_eq_error_iff (path : Text) (raw : Bytes) (error : SourceError) :
    ofBytes path raw = .error error ↔
      ∃ page, FirstIllFormed (raw.splitOn pageBreakByte) page ∧ error = .encoding path page := by
  have refused : ofBytes path raw = .error error ↔
      decodePages path 0 (raw.splitOn pageBreakByte) = .error error := by
    rw [ofBytes_eq, ← decodePages_splitOn]
    cases decodePages path 0 (raw.splitOn pageBreakByte) <;> simp [Except.map]
  rw [refused, decodePages_eq_error_iff]
  simp only [Nat.zero_add]

/-- A file has a page at fault exactly when it encodes no text. -/
theorem exists_firstIllFormed_iff (raw : Bytes) :
    (∃ page, FirstIllFormed (raw.splitOn pageBreakByte) page) ↔ ∀ text, Utf8.encode text ≠ raw := by
  constructor
  · rintro ⟨page, first⟩ text encodes
    have made := (ofBytes_eq_ok_iff [] raw _).mpr ⟨text, encodes, rfl⟩
    have refused := (ofBytes_eq_error_iff [] raw _).mpr ⟨page, first, rfl⟩
    cases made.symm.trans refused
  · intro noText
    cases made : ofBytes [] raw with
    | error error =>
        obtain ⟨page, first, -⟩ := (ofBytes_eq_error_iff [] raw error).mp made
        exact ⟨page, first⟩
    | ok source =>
        obtain ⟨text, encodes, -⟩ := (ofBytes_eq_ok_iff [] raw source).mp made
        exact absurd encodes (noText text)

/-- **Decoding and then cutting is cutting and then decoding.**  Both give the pages of the one
text that the file encodes.  A file that is ill-formed has a first page that is ill-formed by
itself, and both report the place of that page. -/
theorem ofBytes_eq_ofRawPages (path : Text) (raw : Bytes) :
    ofBytes path raw = ofRawPages path (raw.splitOn pageBreakByte) ∧
    (∀ source, ofBytes path raw = .ok source ↔
      ∃ text, Utf8.encode text = raw ∧ source = ⟨path, text.splitOn pageBreak⟩) ∧
    (¬raw.toByteArray.IsValidUTF8 ↔ ∃ page, FirstIllFormed (raw.splitOn pageBreakByte) page ∧
      ofBytes path raw = .error (.encoding path page) ∧
      ofRawPages path (raw.splitOn pageBreakByte) = .error (.encoding path page)) := by
  have same : ofBytes path raw = ofRawPages path (raw.splitOn pageBreakByte) := by
    rw [ofBytes_eq, ofRawPages, decodePages_splitOn]
  refine ⟨same, ofBytes_eq_ok_iff path raw, ?_⟩
  rw [← same]
  constructor
  · intro illFormed
    cases made : ofBytes path raw with
    | ok source =>
        obtain ⟨text, encodes, -⟩ := (ofBytes_eq_ok_iff path raw source).mp made
        refine absurd ((Utf8.isValidUTF8_iff raw).mpr ⟨text, ?_⟩) illFormed
        exact (Utf8.decode?_eq_some_iff raw text).mpr encodes
    | error error =>
        obtain ⟨page, first, rfl⟩ := (ofBytes_eq_error_iff path raw error).mp made
        exact ⟨page, first, rfl, rfl⟩
  · rintro ⟨page, -, refused, -⟩ wellFormed
    obtain ⟨text, decoded⟩ := (Utf8.isValidUTF8_iff raw).mp wellFormed
    have made := (ofBytes_eq_ok_iff path raw _).mpr
      ⟨text, (Utf8.decode?_eq_some_iff raw text).mp decoded, rfl⟩
    simp [made] at refused

/-- A page break in the middle of a sequence: the page before it is at fault. -/
example : ofBytes "p" [0x61, 0x0C, 0xE2, 0x82, 0x0C, 0xAC] = .error (.encoding "p" 1) := by cbv

/-! ## Pages joined again -/

/-- `raw` is the pages of `source` in their order, with a page break between neighbours. -/
structure Writes (source : Source) (raw : Bytes) : Prop where
  nonempty : source.pages ≠ []
  unbroken : ∀ page ∈ source.pages, pageBreak ∉ page
  joined : Utf8.encode (Text.join [pageBreak] source.pages) = raw

theorem ofBytes_eq_ok_iff_writes (path : Text) (raw : Bytes) (source : Source) :
    ofBytes path raw = .ok source ↔ source.path = path ∧ source.Writes raw := by
  rw [ofBytes_eq_ok_iff]
  constructor
  · rintro ⟨text, rfl, rfl⟩
    refine ⟨rfl, by simp [List.splitOn_ne_nil], ?_, ?_⟩
    · exact fun page mem => Text.notMem_of_mem_splitOn pageBreak mem
    · rw [Text.join, List.intercalate_splitOn]
  · rintro ⟨rfl, nonempty, unbroken, rfl⟩
    refine ⟨_, rfl, ?_⟩
    rw [Text.join, List.splitOn_intercalate pageBreak unbroken nonempty]

theorem encodes_of_decodePages {path : Text} {pieces : List Bytes} :
    ∀ {page : Nat} {pages : List Text}, decodePages path page pieces = .ok pages →
      pages.map Utf8.encode = pieces := by
  induction pieces with
  | nil =>
      intro page pages decoded
      obtain rfl := Except.ok.inj decoded
      rfl
  | cons piece rest ih =>
      intro page pages decoded
      rw [decodePages] at decoded
      split at decoded
      · simp at decoded
      · rename_i text read
        cases later : decodePages path (page + 1) rest with
        | error error => simp [later, Except.map] at decoded
        | ok others =>
            rw [later] at decoded
            obtain rfl := Except.ok.inj decoded
            rw [List.map_cons, ih later, (Utf8.decode?_eq_some_iff piece text).mp read]

/-- The pages are the texts of the pieces between the page breaks, each by itself. -/
theorem encodes_of_ofBytes {path : Text} {raw : Bytes} {source : Source}
    (made : ofBytes path raw = .ok source) :
    source.pages.map Utf8.encode = raw.splitOn pageBreakByte := by
  rw [ofBytes_eq, ← decodePages_splitOn] at made
  cases decoded : decodePages path 0 (raw.splitOn pageBreakByte) with
  | error error => simp [decoded, Except.map] at made
  | ok pages =>
      rw [decoded] at made
      obtain rfl := Except.ok.inj made
      exact encodes_of_decodePages decoded

/-- There is one page more than there are page breaks in the file. -/
theorem length_pages_of_ofBytes {path : Text} {raw : Bytes} {source : Source}
    (made : ofBytes path raw = .ok source) :
    source.pages.length = raw.count pageBreakByte + 1 := by
  rw [← List.length_map Utf8.encode, encodes_of_ofBytes made, Text.length_splitOn]

/-- **Cutting a file into pages loses nothing and makes nothing up.**  A file has pages exactly
when it is well-formed.  Its pages have no page break in them, there is one more of them than of
the page breaks in the file, and joined and encoded they are the file again.  The other way
round, pages without a page break, one at least, are the pages of the file that they make when
they are joined, empty pages included. -/
theorem ofBytes_lossless (path : Text) :
    (∀ raw : Bytes, (∃ source, ofBytes path raw = .ok source) ↔ raw.toByteArray.IsValidUTF8) ∧
    (∀ raw source, ofBytes path raw = .ok source →
      source.path = path ∧
      Utf8.encode (Text.join [pageBreak] source.pages) = raw ∧
      (∀ page ∈ source.pages, pageBreak ∉ page) ∧
      source.pages.length = raw.count pageBreakByte + 1) ∧
    ∀ pages : List Text, pages ≠ [] → (∀ page ∈ pages, pageBreak ∉ page) →
      ofBytes path (Utf8.encode (Text.join [pageBreak] pages)) = .ok ⟨path, pages⟩ := by
  refine ⟨fun raw => ?_, fun raw source made => ?_, fun pages nonempty unbroken => ?_⟩
  · rw [Utf8.isValidUTF8_iff]
    constructor
    · rintro ⟨source, made⟩
      obtain ⟨text, encodes, -⟩ := (ofBytes_eq_ok_iff path raw source).mp made
      exact ⟨text, (Utf8.decode?_eq_some_iff raw text).mpr encodes⟩
    · rintro ⟨text, decoded⟩
      exact ⟨_, (ofBytes_eq_ok_iff path raw _).mpr
        ⟨text, (Utf8.decode?_eq_some_iff raw text).mp decoded, rfl⟩⟩
  · obtain ⟨samePath, writes⟩ := (ofBytes_eq_ok_iff_writes path raw source).mp made
    exact ⟨samePath, writes.joined, writes.unbroken, length_pages_of_ofBytes made⟩
  · exact (ofBytes_eq_ok_iff_writes path _ _).mpr ⟨rfl, nonempty, unbroken, rfl⟩

/-- Three pages, the first and the last of them empty, make a file of two page breaks around one
letter; and the file is cut into these pages. -/
theorem ofBytes_lossless_empty_ends :
    let pages : List Text := [[], ['a'], []]
    ofBytes "p" [0x0C, 0x61, 0x0C] = .ok ⟨"p", pages⟩ ∧
      pages.length = List.count pageBreakByte [0x0C, 0x61, 0x0C] + 1 := by
  intro pages
  obtain ⟨-, read, written⟩ := ofBytes_lossless "p"
  have made : ofBytes "p" [0x0C, 0x61, 0x0C] = .ok ⟨"p", pages⟩ :=
    written pages (by decide) (by decide)
  obtain ⟨-, -, -, count⟩ := read _ _ made
  exact ⟨made, count⟩

end Multipage.Source
