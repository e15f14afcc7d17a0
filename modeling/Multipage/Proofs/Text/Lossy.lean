/-
# Multipage.Proofs.Text.Lossy -- decoding that replaces what is ill-formed

Where no character can be read, the longest start of one is passed over, or one byte that starts
none, and U+FFFD stands for it in the text (`Utf8.Unreadable`).  Lossy decoding does this and
nothing else (`Utf8.decodeLossy_eq_iff_mends`), so a text comes back from its bytes
(`Utf8.decodeLossy_encode`), and bytes are lost only where U+FFFD stands
(`Utf8.encode_decodeLossy`).

A byte below 0x80 stands in no longer sequence, and ends one that has not ended.  So the bytes on
the two sides of it are decoded apart (`Utf8.decodeLossy_append_stop`,
`Utf8.decodeLossy_intercalate`).
-/
import Multipage.Proofs.Text.Codec

namespace Multipage.Utf8

set_option autoImplicit false

/-! ## Continuation bytes -/

/-- The bytes that a lead asks for: `n` of them, the first between `lowest` and `highest`. -/
inductive Continues : (n : Nat) → (lowest highest : UInt8) → Bytes → Prop where
  | done {lowest highest : UInt8} : Continues 0 lowest highest []
  | next {n : Nat} {lowest highest b : UInt8} {rest : Bytes} (above : lowest ≤ b)
      (below : b ≤ highest) (later : Continues n 0x80 0xBF rest) :
      Continues (n + 1) lowest highest (b :: rest)

theorem exists_continues (n : Nat) : ∃ bytes, Continues n 0x80 0xBF bytes := by
  induction n with
  | zero => exact ⟨[], .done⟩
  | succ n ih =>
      obtain ⟨bytes, continues⟩ := ih
      exact ⟨0x80 :: bytes, .next (by decide) (by decide) continues⟩

/-- A number is read exactly from the bytes that the lead asks for. -/
theorem exists_continuation_iff (n bits : Nat) (lowest highest : UInt8) (bs : Bytes) :
    (∃ number, continuation n lowest highest bits bs = (some number, [])) ↔
      Continues n lowest highest bs := by
  induction n generalizing lowest highest bits bs with
  | zero =>
      constructor
      · rintro ⟨number, read⟩
        rw [continuation, Prod.mk.injEq] at read
        rw [read.2]
        exact .done
      · rintro ⟨⟩
        exact ⟨bits, rfl⟩
  | succ n ih =>
      constructor
      · rintro ⟨number, read⟩
        cases bs with
        | nil => simp [continuation] at read
        | cons b rest =>
            rw [continuation] at read
            split at read
            · rename_i inRange
              exact .next inRange.1 inRange.2 ((ih ..).mp ⟨number, read⟩)
            · simp at read
      · rintro (_ | ⟨above, below, later⟩)
        obtain ⟨number, read⟩ := (ih ..).mpr later
        refine ⟨number, ?_⟩
        rw [continuation, if_pos ⟨above, below⟩]
        exact read

/-- Where reading stops early, the bytes before are a start of what is asked for, and with the next
byte they are none. -/
theorem exists_of_continuation_eq_none (n bits : Nat) {lowest highest : UInt8}
    (range : lowest ≤ highest) {bs later : Bytes}
    (failed : continuation n lowest highest bits bs = (none, later)) :
    ∃ good, bs = good ++ later ∧ (∃ more, Continues n lowest highest (good ++ more)) ∧
      ∀ b rest, later = b :: rest → ∀ more, ¬Continues n lowest highest (good ++ b :: more) := by
  induction n generalizing lowest highest bits bs with
  | zero => simp [continuation] at failed
  | succ n ih =>
      obtain ⟨plain, continues⟩ := exists_continues n
      cases bs with
      | nil =>
          obtain ⟨-, rfl⟩ := Prod.mk.inj failed
          exact ⟨[], rfl, ⟨_, .next (UInt8.le_refl _) range continues⟩, by simp⟩
      | cons b rest =>
          rw [continuation] at failed
          split at failed
          · rename_i inRange
            obtain ⟨good, rfl, ⟨more, starts⟩, stops⟩ := ih _ (by decide) failed
            refine ⟨b :: good, rfl, ⟨more, .next inRange.1 inRange.2 starts⟩, ?_⟩
            rintro c rest rfl more (_ | ⟨-, -, longer⟩)
            exact stops c rest rfl more longer
          · rename_i outside
            obtain ⟨-, rfl⟩ := Prod.mk.inj failed
            refine ⟨[], rfl, ⟨_, .next (UInt8.le_refl _) range continues⟩, ?_⟩
            rintro c rest ⟨⟩ more (_ | ⟨above, below, -⟩)
            exact outside ⟨above, below⟩

/-! ## What is passed over -/

/-- The bytes are a start of those of a character. -/
def Starts (bytes : Bytes) : Prop := ∃ c, bytes <+: String.utf8EncodeChar c

/-- No character is read at the start of `part ++ rest`, and `part` is passed over: the longest
start of a character there, or one byte. -/
structure Unreadable (part rest : Bytes) : Prop where
  noCharacter : ∀ c, ¬String.utf8EncodeChar c <+: part ++ rest
  nonempty : part ≠ []
  starts : part.length = 1 ∨ Starts part
  longest : ∀ longer, longer <+: part ++ rest → Starts longer → longer.length ≤ part.length

/-- What is passed over is one part. -/
theorem Unreadable.unique {part rest other otherRest : Bytes} (here : Unreadable part rest)
    (there : Unreadable other otherRest) (same : part ++ rest = other ++ otherRest) :
    part = other ∧ rest = otherRest := by
  have shorter : ∀ {part rest other otherRest : Bytes}, Unreadable part rest →
      Unreadable other otherRest → part ++ rest = other ++ otherRest →
      part.length ≤ other.length := by
    intro part rest other otherRest here there same
    rcases here.starts with single | starts
    · rw [single]
      exact List.length_pos_of_ne_nil there.nonempty
    · exact there.longest part (same ▸ List.prefix_append ..) starts
  have lengths := Nat.le_antisymm (shorter here there same) (shorter there here same.symm)
  exact List.append_inj same lengths

/-- The bytes of a character that starts with a lead are those that the lead asks for. -/
theorem exists_encodeChar_iff {b : UInt8} {lead : Lead} (leads : Leads b lead) (rest : Bytes) :
    (∃ c, String.utf8EncodeChar c = b :: rest) ↔
      Continues lead.following lead.lowest lead.highest rest := by
  rw [← exists_continuation_iff _ lead.bits]
  have step : ∀ c, String.utf8EncodeChar c = b :: rest ↔ decodeStep b rest = (some c, []) := by
    intro c
    rw [decodeStep_eq_some_iff, List.append_nil, eq_comm]
  simp only [step, decodeStep_eq_some_iff_of_leads leads]
  constructor
  · rintro ⟨c, number, read, -⟩
    exact ⟨number, read⟩
  · rintro ⟨number, read⟩
    exact ⟨_, number, read, rfl⟩

theorem Leads.range {b : UInt8} {lead : Lead} (leads : Leads b lead) :
    lead.lowest ≤ lead.highest := by
  cases leads with
  | two => exact (by decide : (0x80 : UInt8) ≤ 0xBF)
  | @three bits small =>
      by_cases zero : bits = 0
      · subst zero
        decide
      · simp only [if_neg zero]
        split <;> decide
  | @four bits small =>
      by_cases zero : bits = 0
      · subst zero
        decide
      · simp only [if_neg zero]
        split <;> decide

/-- A step that reads no character passes over an unreadable part. -/
theorem unreadable_of_decodeStep {b : UInt8} {rest later : Bytes}
    (failed : decodeStep b rest = (none, later)) :
    ∃ tail, rest = tail ++ later ∧ Unreadable (b :: tail) later := by
  have noCharacter : ∀ c, ¬String.utf8EncodeChar c <+: b :: rest := by
    rintro c ⟨after, bytes⟩
    rw [(decodeStep_eq_some_iff b rest after c).mpr bytes.symm] at failed
    simp at failed
  have notAscii : ¬b < 0x80 := by
    intro ascii
    simp [decodeStep, ascii] at failed
  rcases leads_or_none b with ⟨lead, leads⟩ | noLead
  · have stopped : continuation lead.following lead.lowest lead.highest lead.bits rest =
        (none, later) := by
      simp only [decodeStep, if_neg notAscii, lead?_of_leads leads, Prod.mk.injEq,
        Option.map_eq_none_iff] at failed
      exact Prod.ext failed.1 failed.2
    obtain ⟨tail, rfl, ⟨more, continues⟩, stops⟩ :=
      exists_of_continuation_eq_none _ _ leads.range stopped
    obtain ⟨c, bytes⟩ := (exists_encodeChar_iff leads _).mpr continues
    refine ⟨tail, rfl, noCharacter, by simp, .inr ⟨c, ?_⟩, ?_⟩
    · rw [bytes]
      exact List.prefix_append (b :: tail) more
    · -- a longer start would go on with the byte at which reading stopped
      rintro longer ⟨after, cut⟩ ⟨d, end', bytes⟩
      rcases List.append_eq_append_iff.mp cut with ⟨middle, part, -⟩ | ⟨middle, rfl, rfl⟩
      · simp [part]
      · cases middle with
        | nil => simp
        | cons next others =>
            have goesOn := (exists_encodeChar_iff leads (tail ++ next :: (others ++ end'))).mp
              ⟨d, by simpa using bytes.symm⟩
            exact absurd goesOn (stops next _ rfl _)
  · obtain rfl : rest = later := by simpa [decodeStep, notAscii, noLead] using failed
    refine ⟨[], rfl, noCharacter, by simp, .inl rfl, ?_⟩
    rintro longer ⟨after, cut⟩ ⟨c, end', bytes⟩
    cases longer with
    | nil => simp
    | cons first others =>
        obtain ⟨rfl, -⟩ := List.cons.inj cut
        have read := (decodeStep_eq_some_iff first (others ++ end') [] c).mpr (by simpa using bytes)
        simp [decodeStep, notAscii, noLead] at read

/-! ## Lossy decoding -/

/-- The text of the bytes, with U+FFFD for each part that is passed over. -/
inductive Mends : Bytes → Text → Prop where
  | nil : Mends [] []
  | character (c : Char) {rest : Bytes} {text : Text} (later : Mends rest text) :
      Mends (String.utf8EncodeChar c ++ rest) (c :: text)
  | replaced {part rest : Bytes} {text : Text} (unreadable : Unreadable part rest)
      (later : Mends rest text) : Mends (part ++ rest) ('\uFFFD' :: text)

theorem decodeLossy_cons (b : UInt8) (rest : Bytes) :
    decodeLossy (b :: rest) =
      (decodeStep b rest).1.getD replacement :: decodeLossy (decodeStep b rest).2 := by
  rw [decodeLossy]

theorem decodeLossy_encodeChar_append (c : Char) (rest : Bytes) :
    decodeLossy (String.utf8EncodeChar c ++ rest) = c :: decodeLossy rest := by
  obtain ⟨b, tail, bytes⟩ := List.exists_cons_of_ne_nil (String.utf8EncodeChar_ne_nil (c := c))
  have read : decodeStep b (tail ++ rest) = (some c, rest) := by
    rw [decodeStep_eq_some_iff, bytes, List.cons_append]
  rw [bytes, List.cons_append, decodeLossy_cons, read, Option.getD_some]

theorem decodeLossy_of_unreadable {part rest : Bytes} (unreadable : Unreadable part rest) :
    decodeLossy (part ++ rest) = '\uFFFD' :: decodeLossy rest := by
  obtain ⟨b, tail, rfl⟩ := List.exists_cons_of_ne_nil unreadable.nonempty
  rcases read : decodeStep b (tail ++ rest) with ⟨_ | c, later⟩
  · obtain ⟨otherTail, cut, other⟩ := unreadable_of_decodeStep read
    have same : b :: tail ++ rest = b :: otherTail ++ later := by
      rw [List.cons_append, List.cons_append, cut]
    obtain ⟨-, rfl⟩ := unreadable.unique other same
    rw [List.cons_append, decodeLossy_cons, read]
    rfl
  · have bytes := (decodeStep_eq_some_iff ..).mp read
    exact absurd ⟨later, bytes.symm⟩ (unreadable.noCharacter c)

theorem mends_decodeLossy (bs : Bytes) : Mends bs (decodeLossy bs) := by
  fun_induction decodeLossy bs with
  | case1 => exact .nil
  | case2 b rest step ih =>
      rcases read : step with ⟨_ | c, later⟩
      · obtain ⟨tail, rfl, unreadable⟩ := unreadable_of_decodeStep read
        rw [read] at ih
        exact .replaced unreadable ih
      · rw [read] at ih
        rw [(decodeStep_eq_some_iff ..).mp read]
        exact .character c ih

/-- **Every part that is no character becomes U+FFFD, and it is the longest such part.** -/
theorem decodeLossy_eq_iff_mends (bs : Bytes) (text : Text) :
    decodeLossy bs = text ↔ Mends bs text := by
  constructor
  · rintro rfl
    exact mends_decodeLossy bs
  · intro mends
    induction mends with
    | nil => rw [decodeLossy]
    | character c _ ih => rw [decodeLossy_encodeChar_append, ih]
    | replaced unreadable _ ih => rw [decodeLossy_of_unreadable unreadable, ih]

/-- A text comes back from its bytes. -/
theorem decodeLossy_encode (t : Text) : decodeLossy (encode t) = t := by
  induction t with
  | nil => rw [encode, List.flatMap_nil, decodeLossy]
  | cons c rest ih => rw [encode_cons, decodeLossy_encodeChar_append, ih]

/-- Without U+FFFD in the text nothing was passed over. -/
theorem encode_decodeLossy {bs : Bytes} (whole : '\uFFFD' ∉ decodeLossy bs) :
    encode (decodeLossy bs) = bs := by
  have mends := mends_decodeLossy bs
  generalize decodeLossy bs = text at mends whole
  induction mends with
  | nil => rfl
  | character c _ ih =>
      rw [encode_cons, ih fun mem => whole (List.mem_cons_of_mem _ mem)]
  | replaced _ _ _ => exact absurd (List.mem_cons_self ..) whole

/-! ## Bytes that stand alone -/

/-- The bytes on the two sides of a byte below 0x80 are decoded apart. -/
theorem decodeLossy_append_stop {stop : UInt8} (ascii : stop < 0x80) (piece more : Bytes) :
    decodeLossy (piece ++ stop :: more) =
      decodeLossy piece ++ Char.ofNat stop.toNat :: decodeLossy more := by
  fun_induction decodeLossy piece with
  | case1 => rw [List.nil_append, decodeLossy_cons, decodeStep, if_pos ascii]; rfl
  | case2 b rest step ih =>
      rw [List.cons_append, decodeLossy_cons, decodeStep_append_stop ascii, ih, List.cons_append]

/-- So pieces that are joined by such a byte are decoded each by itself. -/
theorem decodeLossy_intercalate {stop : UInt8} (ascii : stop < 0x80) (pieces : List Bytes) :
    decodeLossy ([stop].intercalate pieces) =
      [Char.ofNat stop.toNat].intercalate (pieces.map decodeLossy) := by
  induction pieces with
  | nil => exact decodeLossy_encode []
  | cons piece rest ih =>
      cases rest with
      | nil => simp
      | cons next more =>
          rw [List.intercalate_cons_cons, List.append_assoc, List.singleton_append,
            decodeLossy_append_stop ascii, ih]
          simp

end Multipage.Utf8
