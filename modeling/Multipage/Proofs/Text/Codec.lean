/-
# Multipage.Proofs.Text.Codec -- decoding undoes encoding, and nothing else decodes

A step of decoding reads a character exactly where the bytes of that character stand
(`Utf8.decodeStep_eq_some_iff`).  The lead bytes come in three classes (`Utf8.Leads`); in each
the first continuation byte is bounded so that every number has one sequence and every sequence
a character.  So bytes decode exactly when they are well-formed, and then to the text they
encode:

* `Utf8.decode?_eq_some_iff`: decoding is the inverse of encoding, and `Utf8.encode_injective`;
* `Utf8.isValidUTF8_iff`: what decodes is what the standard library calls well-formed;
* `Utf8.decodeUpToFault_append_stop`: a byte below 0x80 ends a sequence that has not ended, so
  what is wrong with the bytes before it is wrong whatever follows.
-/
import Multipage.Proofs.Text.Utf8
import Mathlib.Tactic.IntervalCases
import Mathlib.Tactic.NormNum

namespace Multipage.Utf8

set_option autoImplicit false

/-! ## Lead bytes -/

/-- What the lead bytes of longer sequences ask for.  `bits` is the part of the number that the
lead gives. -/
inductive Leads : UInt8 → Lead → Prop where
  | two {bits : Nat} (longer : 2 ≤ bits) (small : bits < 32) :
      Leads (.ofNat (bits + 0xC0)) { bits, following := 1 }
  | three {bits : Nat} (small : bits < 16) :
      Leads (.ofNat (bits + 0xE0))
        { bits, following := 2, lowest := if bits = 0 then 0xA0 else 0x80
          highest := if bits = 0xD then 0x9F else 0xBF }
  | four {bits : Nat} (small : bits ≤ 4) :
      Leads (.ofNat (bits + 0xF0))
        { bits, following := 3, lowest := if bits = 0 then 0x90 else 0x80
          highest := if bits = 4 then 0x8F else 0xBF }

theorem lead?_of_leads {b : UInt8} {lead : Lead} (leads : Leads b lead) :
    lead? b = some lead := by
  cases leads with
  | two longer small => rename_i bits; interval_cases bits <;> rfl
  | three small => rename_i bits; interval_cases bits <;> rfl
  | four small => rename_i bits; interval_cases bits <;> rfl

/-- A byte leads a longer sequence or no sequence of more than one byte. -/
theorem leads_or_none (b : UInt8) : (∃ lead, Leads b lead) ∨ lead? b = none := by
  have split : ∀ base ≤ b.toNat, UInt8.ofNat (b.toNat - base + base) = b := by
    intro base le
    rw [Nat.sub_add_cancel le, UInt8.ofNat_toNat]
  by_cases inTwo : 0xC2 ≤ b.toNat ∧ b.toNat < 0xE0
  · rw [← split 0xC0 (by omega)]
    exact .inl ⟨_, .two (by omega) (by omega)⟩
  by_cases inThree : 0xE0 ≤ b.toNat ∧ b.toNat < 0xF0
  · rw [← split 0xE0 (by omega)]
    exact .inl ⟨_, .three (by omega)⟩
  by_cases inFour : 0xF0 ≤ b.toNat ∧ b.toNat ≤ 0xF4
  · rw [← split 0xF0 (by omega)]
    exact .inl ⟨_, .four (by omega)⟩
  right
  by_cases low : b.toNat < 0xC2
  · exact if_pos (UInt8.lt_iff_toNat_lt.mpr low)
  · have high : 0xF4 < b.toNat := by omega
    simp only [lead?, UInt8.lt_iff_toNat_lt, ← UInt8.toNat_inj, UInt8.reduceToNat]
    iterate 8 rw [if_neg (by omega)]

theorem Leads.high {b : UInt8} {lead : Lead} (leads : Leads b lead) : 0x80 ≤ b.toNat := by
  cases leads <;> rw [UInt8.toNat_ofNat'] <;> omega

/-- `x` may be the six bits of the first continuation byte. -/
def Lead.Admits (lead : Lead) (x : Nat) : Prop :=
  lead.lowest.toNat ≤ x + 0x80 ∧ x + 0x80 ≤ lead.highest.toNat

theorem admits_plain_iff (bits following x : Nat) :
    Lead.Admits { bits, following } x ↔ x < 64 := by
  simp only [Lead.Admits, UInt8.reduceToNat]
  omega

theorem admits_three_iff (bits x : Nat) :
    Lead.Admits { bits, following := 2, lowest := if bits = 0 then 0xA0 else 0x80
                  highest := if bits = 0xD then 0x9F else 0xBF } x ↔
      x < 64 ∧ (bits = 0 → 32 ≤ x) ∧ (bits = 0xD → x < 32) := by
  simp only [Lead.Admits, apply_ite UInt8.toNat, UInt8.reduceToNat]
  split <;> split <;> omega

theorem admits_four_iff (bits x : Nat) :
    Lead.Admits { bits, following := 3, lowest := if bits = 0 then 0x90 else 0x80
                  highest := if bits = 4 then 0x8F else 0xBF } x ↔
      x < 64 ∧ (bits = 0 → 16 ≤ x) ∧ (bits = 4 → x < 16) := by
  simp only [Lead.Admits, apply_ite UInt8.toNat, UInt8.reduceToNat]
  split <;> split <;> omega

theorem Leads.lowest_ge {b : UInt8} {lead : Lead} (leads : Leads b lead) :
    0x80 ≤ lead.lowest := by
  cases leads with
  | two => simp
  | three => simp only; split <;> decide
  | four => simp only; split <;> decide

/-! ## One character -/

theorem val_ofNat {number : Nat} (valid : number.isValidChar) :
    (Char.ofNat number).val.toNat = number := by
  rw [Char.ofNat, dif_pos valid]
  rfl

/-- The bytes of a character, by the groups of six bits that its number is made of. -/
inductive Sequence : Char → Bytes → Prop where
  | one {bits : Nat} (small : bits < 0x80) : Sequence (.ofNat bits) [.ofNat bits]
  | two {bits x : Nat} (longer : 2 ≤ bits) (small : bits < 32) (last : x < 64) :
      Sequence (.ofNat (bits * 64 + x)) [.ofNat (bits + 0xC0), .ofNat (x + 0x80)]
  | three {bits x y : Nat} (small : bits < 16) (second : x < 64) (last : y < 64)
      (longer : bits = 0 → 32 ≤ x) (noSurrogate : bits = 0xD → x < 32) :
      Sequence (.ofNat ((bits * 64 + x) * 64 + y))
        [.ofNat (bits + 0xE0), .ofNat (x + 0x80), .ofNat (y + 0x80)]
  | four {bits x y z : Nat} (small : bits ≤ 4) (second : x < 64) (third : y < 64)
      (last : z < 64) (longer : bits = 0 → 16 ≤ x) (inRange : bits = 4 → x < 16) :
      Sequence (.ofNat (((bits * 64 + x) * 64 + y) * 64 + z))
        [.ofNat (bits + 0xF0), .ofNat (x + 0x80), .ofNat (y + 0x80), .ofNat (z + 0x80)]

theorem encodeChar_of_sequence {c : Char} {bytes : Bytes} (sequence : Sequence c bytes) :
    String.utf8EncodeChar c = bytes := by
  cases sequence with
  | @one bits small =>
      rw [String.utf8EncodeChar, val_ofNat (.inl (by omega)), if_pos (by omega)]
  | @two bits x longer small last =>
      rw [String.utf8EncodeChar, val_ofNat (.inl (by omega)), if_neg (by omega),
        if_pos (by omega), show (bits * 64 + x) / 64 % 32 = bits by omega,
        show (bits * 64 + x) % 64 = x by omega]
  | @three bits x y small second last longer noSurrogate =>
      have valid : ((bits * 64 + x) * 64 + y).isValidChar := by
        rw [Nat.isValidChar]
        omega
      rw [String.utf8EncodeChar, val_ofNat valid, if_neg (by omega), if_neg (by omega),
        if_pos (by omega), show ((bits * 64 + x) * 64 + y) / 4096 % 16 = bits by omega,
        show ((bits * 64 + x) * 64 + y) / 64 % 64 = x by omega,
        show ((bits * 64 + x) * 64 + y) % 64 = y by omega]
  | @four bits x y z small second third last longer inRange =>
      rw [String.utf8EncodeChar, val_ofNat (.inr (by omega)), if_neg (by omega),
        if_neg (by omega), if_neg (by omega),
        show (((bits * 64 + x) * 64 + y) * 64 + z) / 262144 % 8 = bits by omega,
        show (((bits * 64 + x) * 64 + y) * 64 + z) / 4096 % 64 = x by omega,
        show (((bits * 64 + x) * 64 + y) * 64 + z) / 64 % 64 = y by omega,
        show (((bits * 64 + x) * 64 + y) * 64 + z) % 64 = z by omega]

/-- A byte below 0x80 is the sequence of its character, and stands in no longer one. -/
theorem Sequence.eq_ofNat_of_ascii {c : Char} {bytes : Bytes} (sequence : Sequence c bytes)
    {b : UInt8} (ascii : b.toNat < 0x80) (mem : b ∈ bytes) : c = Char.ofNat b.toNat := by
  have high : ∀ x < 0x80, b ≠ .ofNat (x + 0x80) := by
    rintro x low rfl
    rw [UInt8.toNat_ofNat'] at ascii
    omega
  cases sequence with
  | @one bits small =>
      obtain rfl := List.mem_singleton.mp mem
      rw [UInt8.toNat_ofNat', Nat.mod_eq_of_lt (by omega)]
  | @two bits x longer small last =>
      simp only [List.mem_cons, List.not_mem_nil, or_false] at mem
      rcases mem with lead | next
      · exact absurd lead (high (bits + 0x40) (by omega))
      · exact absurd next (high x (by omega))
  | @three bits x y small second last longer noSurrogate =>
      simp only [List.mem_cons, List.not_mem_nil, or_false] at mem
      rcases mem with lead | next | next
      · exact absurd lead (high (bits + 0x60) (by omega))
      · exact absurd next (high x (by omega))
      · exact absurd next (high y (by omega))
  | @four bits x y z small second third last longer inRange =>
      simp only [List.mem_cons, List.not_mem_nil, or_false] at mem
      rcases mem with lead | next | next | next
      · exact absurd lead (high (bits + 0x70) (by omega))
      · exact absurd next (high x (by omega))
      · exact absurd next (high y (by omega))
      · exact absurd next (high z (by omega))

/-- Every character has a sequence. -/
theorem exists_sequence (c : Char) : ∃ bytes, Sequence c bytes := by
  have groups : ∀ number, number = c.toNat → Char.ofNat number = c := by
    rintro number rfl
    exact Char.ofNat_toNat c
  have valid : c.toNat.isValidChar := c.valid
  rw [Nat.isValidChar] at valid
  by_cases ascii : c.toNat < 0x80
  · rw [← groups c.toNat rfl]
    exact ⟨_, .one ascii⟩
  by_cases two : c.toNat < 0x800
  · rw [← groups (c.toNat / 64 * 64 + c.toNat % 64) (by omega)]
    exact ⟨_, .two (by omega) (by omega) (by omega)⟩
  by_cases three : c.toNat < 0x10000
  · rw [← groups ((c.toNat / 4096 * 64 + c.toNat / 64 % 64) * 64 + c.toNat % 64) (by omega)]
    exact ⟨_, .three (by omega) (by omega) (by omega) (by omega) (by omega)⟩
  · rw [← groups (((c.toNat / 262144 * 64 + c.toNat / 4096 % 64) * 64 + c.toNat / 64 % 64) * 64 +
      c.toNat % 64) (by omega)]
    exact ⟨_, .four (by omega) (by omega) (by omega) (by omega) (by omega) (by omega)⟩

/-- A continuation byte in range gives six bits more. -/
theorem continuation_succ_eq_some_iff (lead : Lead) (n bits : Nat) (low : 0x80 ≤ lead.lowest)
    (bs rest : Bytes) (number : Nat) :
    continuation (n + 1) lead.lowest lead.highest bits bs = (some number, rest) ↔
      ∃ x tail, bs = .ofNat (x + 0x80) :: tail ∧ lead.Admits x ∧
        continuation n 0x80 0xBF (bits * 64 + x) tail = (some number, rest) := by
  have low : 0x80 ≤ lead.lowest.toNat := UInt8.le_iff_toNat_le.mp low
  have top : lead.highest.toNat < 256 := lead.highest.toNat_lt
  constructor
  · intro read
    cases bs with
    | nil => simp [continuation] at read
    | cons b tail =>
        simp only [continuation, UInt8.le_iff_toNat_le] at read
        split at read
        · rename_i inRange
          have split : b = .ofNat (b.toNat - 0x80 + 0x80) := by
            rw [Nat.sub_add_cancel (by omega), UInt8.ofNat_toNat]
          exact ⟨b.toNat - 0x80, tail, congrArg (· :: tail) split,
            ⟨by omega, by omega⟩, read⟩
        · simp at read
  · rintro ⟨x, tail, rfl, ⟨above, below⟩, read⟩
    have number : (UInt8.ofNat (x + 0x80)).toNat = x + 0x80 := by
      rw [UInt8.toNat_ofNat']
      omega
    simp only [continuation, UInt8.le_iff_toNat_le, number]
    rw [if_pos ⟨above, below⟩, Nat.add_sub_cancel, read]

/-- So does one without a narrower range. -/
theorem continuation_plain_eq_some_iff (n bits : Nat) (bs rest : Bytes) (number : Nat) :
    continuation (n + 1) 0x80 0xBF bits bs = (some number, rest) ↔
      ∃ x tail, bs = .ofNat (x + 0x80) :: tail ∧ x < 64 ∧
        continuation n 0x80 0xBF (bits * 64 + x) tail = (some number, rest) := by
  simp only [← admits_plain_iff bits (n + 1)]
  exact continuation_succ_eq_some_iff { bits, following := n + 1 } n bits (by simp) bs rest number

theorem continuation_zero_eq_some_iff (bits : Nat) (bs rest : Bytes) (number : Nat) :
    continuation 0 0x80 0xBF bits bs = (some number, rest) ↔ bits = number ∧ bs = rest := by
  rw [continuation, Prod.mk.injEq, Option.some_inj]

theorem decodeStep_eq_some_iff_of_leads {b : UInt8} {lead : Lead} (leads : Leads b lead)
    (rest later : Bytes) (c : Char) :
    decodeStep b rest = (some c, later) ↔
      ∃ number, continuation lead.following lead.lowest lead.highest lead.bits rest =
        (some number, later) ∧ Char.ofNat number = c := by
  have notAscii : ¬b < 0x80 := by
    rw [UInt8.lt_iff_toNat_lt]
    exact Nat.not_lt.mpr leads.high
  rw [decodeStep, if_neg notAscii, lead?_of_leads leads]
  constructor
  · intro read
    simp only [Prod.mk.injEq, Option.map_eq_some_iff] at read
    obtain ⟨⟨number, read, made⟩, rfl⟩ := read
    exact ⟨number, Prod.ext read rfl, made⟩
  · rintro ⟨number, read, rfl⟩
    simp [read]

theorem sequence_of_decodeStep {b : UInt8} {rest later : Bytes} {c : Char}
    (read : decodeStep b rest = (some c, later)) :
    ∃ tail, rest = tail ++ later ∧ Sequence c (b :: tail) := by
  by_cases ascii : b < 0x80
  · rw [decodeStep, if_pos ascii, Prod.mk.injEq, Option.some_inj] at read
    obtain ⟨rfl, rfl⟩ := read
    have one := Sequence.one (UInt8.lt_iff_toNat_lt.mp ascii)
    rw [UInt8.ofNat_toNat] at one
    exact ⟨[], rfl, one⟩
  rcases leads_or_none b with ⟨lead, leads⟩ | noLead
  · rw [decodeStep_eq_some_iff_of_leads leads] at read
    obtain ⟨number, read, rfl⟩ := read
    cases leads with
    | two longer small =>
        rw [continuation_plain_eq_some_iff] at read
        obtain ⟨x, tail, rfl, last, read⟩ := read
        obtain ⟨rfl, rfl⟩ := (continuation_zero_eq_some_iff ..).mp read
        exact ⟨[_], rfl, .two longer small last⟩
    | three small =>
        rw [continuation_succ_eq_some_iff _ _ _ (Leads.three small).lowest_ge] at read
        obtain ⟨x, tail, rfl, admits, read⟩ := read
        obtain ⟨second, longer, noSurrogate⟩ := (admits_three_iff ..).mp admits
        rw [continuation_plain_eq_some_iff] at read
        obtain ⟨y, tail, rfl, last, read⟩ := read
        obtain ⟨rfl, rfl⟩ := (continuation_zero_eq_some_iff ..).mp read
        exact ⟨[_, _], rfl, .three small second last longer noSurrogate⟩
    | four small =>
        rw [continuation_succ_eq_some_iff _ _ _ (Leads.four small).lowest_ge] at read
        obtain ⟨x, tail, rfl, admits, read⟩ := read
        obtain ⟨second, longer, inRange⟩ := (admits_four_iff ..).mp admits
        rw [continuation_plain_eq_some_iff] at read
        obtain ⟨y, tail, rfl, third, read⟩ := read
        rw [continuation_plain_eq_some_iff] at read
        obtain ⟨z, tail, rfl, last, read⟩ := read
        obtain ⟨rfl, rfl⟩ := (continuation_zero_eq_some_iff ..).mp read
        exact ⟨[_, _, _], rfl, .four small second third last longer inRange⟩
  · simp [decodeStep, ascii, noLead] at read

theorem decodeStep_of_sequence {b : UInt8} {tail : Bytes} {c : Char}
    (sequence : Sequence c (b :: tail)) (later : Bytes) :
    decodeStep b (tail ++ later) = (some c, later) := by
  cases sequence with
  | @one bits small =>
      have number : (UInt8.ofNat bits).toNat = bits := by
        rw [UInt8.toNat_ofNat']
        omega
      have ascii : UInt8.ofNat bits < 0x80 := by
        rw [UInt8.lt_iff_toNat_lt, number]
        exact small
      rw [decodeStep, if_pos ascii, number, List.nil_append]
  | two longer small last =>
      rw [decodeStep_eq_some_iff_of_leads (.two longer small)]
      refine ⟨_, ?_, rfl⟩
      rw [continuation_plain_eq_some_iff]
      exact ⟨_, _, rfl, last, rfl⟩
  | three small second last longer noSurrogate =>
      rw [decodeStep_eq_some_iff_of_leads (.three small)]
      refine ⟨_, ?_, rfl⟩
      rw [continuation_succ_eq_some_iff _ _ _ (Leads.three small).lowest_ge]
      refine ⟨_, _, rfl, (admits_three_iff ..).mpr ⟨second, longer, noSurrogate⟩, ?_⟩
      rw [continuation_plain_eq_some_iff]
      exact ⟨_, _, rfl, last, rfl⟩
  | four small second third last longer inRange =>
      rw [decodeStep_eq_some_iff_of_leads (.four small)]
      refine ⟨_, ?_, rfl⟩
      rw [continuation_succ_eq_some_iff _ _ _ (Leads.four small).lowest_ge]
      refine ⟨_, _, rfl, (admits_four_iff ..).mpr ⟨second, longer, inRange⟩, ?_⟩
      rw [continuation_plain_eq_some_iff]
      refine ⟨_, _, rfl, third, ?_⟩
      rw [continuation_plain_eq_some_iff]
      exact ⟨_, _, rfl, last, rfl⟩

/-- A step reads a character exactly where its bytes stand. -/
theorem decodeStep_eq_some_iff (b : UInt8) (rest later : Bytes) (c : Char) :
    decodeStep b rest = (some c, later) ↔ b :: rest = String.utf8EncodeChar c ++ later := by
  constructor
  · intro read
    obtain ⟨tail, rfl, sequence⟩ := sequence_of_decodeStep read
    rw [encodeChar_of_sequence sequence, List.cons_append]
  · intro bytes
    obtain ⟨sequenceBytes, sequence⟩ := exists_sequence c
    rw [encodeChar_of_sequence sequence] at bytes
    cases sequenceBytes with
    | nil => cases sequence
    | cons first tail =>
        rw [List.cons_append, List.cons.injEq] at bytes
        obtain ⟨rfl, rfl⟩ := bytes
        exact decodeStep_of_sequence sequence later

/-! ## A whole text -/

theorem encode_cons (c : Char) (t : Text) :
    encode (c :: t) = String.utf8EncodeChar c ++ encode t := List.flatMap_cons

theorem encode_append (s t : Text) : encode (s ++ t) = encode s ++ encode t :=
  List.flatMap_append

/-- A byte below 0x80 stands in the text for its character. -/
theorem notMem_encode_of_ascii {b : UInt8} (ascii : b.toNat < 0x80) {t : Text}
    (absent : Char.ofNat b.toNat ∉ t) : b ∉ encode t := by
  intro mem
  obtain ⟨c, inText, inBytes⟩ := List.mem_flatMap.mp mem
  obtain ⟨bytes, sequence⟩ := exists_sequence c
  rw [encodeChar_of_sequence sequence] at inBytes
  obtain rfl := sequence.eq_ofNat_of_ascii ascii inBytes
  exact absent inText

/-- What is read up to the first fault is the text of the bytes before it, and there is a fault
when bytes are left. -/
theorem decodeUpToFault_spec (bs : Bytes) :
    bs = encode (decodeUpToFault bs).1 ++ (decodeUpToFault bs).2 ∧
      ∀ b undecoded, (decodeUpToFault bs).2 = b :: undecoded →
        (decodeStep b undecoded).1 = none := by
  fun_induction decodeUpToFault bs with
  | case1 => simp [encode]
  | case2 b rest left read =>
      refine ⟨rfl, fun first undecoded same => ?_⟩
      rw [List.cons.injEq] at same
      obtain ⟨rfl, rfl⟩ := same
      rw [read]
  | case3 b rest c later read text undecoded same ih =>
      rw [same] at ih
      refine ⟨?_, ih.2⟩
      rw [(decodeStep_eq_some_iff ..).mp read, encode_cons, List.append_assoc, ← ih.1]

theorem decodeUpToFault_of_fault {b : UInt8} {rest : Bytes}
    (fault : (decodeStep b rest).1 = none) : decodeUpToFault (b :: rest) = ([], b :: rest) := by
  rw [decodeUpToFault]
  split
  · rfl
  · rename_i read
    simp [read] at fault

theorem decodeUpToFault_of_read {b : UInt8} {rest later : Bytes} {c : Char}
    (read : decodeStep b rest = (some c, later)) :
    decodeUpToFault (b :: rest) =
      (c :: (decodeUpToFault later).1, (decodeUpToFault later).2) := by
  rw [decodeUpToFault]
  split
  · rename_i fault
    simp [fault] at read
  · rename_i other otherLater otherRead
    rw [otherRead, Prod.mk.injEq, Option.some_inj] at read
    obtain ⟨rfl, rfl⟩ := read
    rfl

/-- Reading goes past an encoded text. -/
theorem decodeUpToFault_encode_append (t : Text) (rest : Bytes) :
    decodeUpToFault (encode t ++ rest) =
      (t ++ (decodeUpToFault rest).1, (decodeUpToFault rest).2) := by
  induction t with
  | nil => rfl
  | cons c t ih =>
      have bytes : String.utf8EncodeChar c ≠ [] := String.utf8EncodeChar_ne_nil
      obtain ⟨b, tail, split⟩ := List.exists_cons_of_ne_nil bytes
      have read : decodeStep b (tail ++ (encode t ++ rest)) = (some c, encode t ++ rest) := by
        rw [decodeStep_eq_some_iff, split, List.cons_append]
      rw [encode_cons, List.append_assoc, split, List.cons_append, decodeUpToFault_of_read read,
        ih, List.cons_append]

/-- **Bytes decode to a text exactly when they are its encoding.** -/
theorem decode?_eq_some_iff (bs : Bytes) (t : Text) : decode? bs = some t ↔ encode t = bs := by
  constructor
  · intro decoded
    have bytes := (decodeUpToFault_spec bs).1
    rw [decode?] at decoded
    split at decoded
    · rename_i text whole
      obtain rfl := Option.some.inj decoded
      rw [whole, List.append_nil] at bytes
      exact bytes.symm
    · simp at decoded
  · rintro rfl
    have read := decodeUpToFault_encode_append t []
    rw [List.append_nil] at read
    simp [decode?, read, decodeUpToFault]

theorem encode_injective : Function.Injective encode := by
  intro s t same
  have decoded := (decode?_eq_some_iff (encode t) s).mpr same
  rw [(decode?_eq_some_iff (encode t) t).mpr rfl, Option.some_inj] at decoded
  exact decoded.symm

/-- Bytes are well-formed, in the sense of the standard library, when they decode. -/
theorem isValidUTF8_iff (bs : Bytes) :
    bs.toByteArray.IsValidUTF8 ↔ ∃ t, decode? bs = some t := by
  simp only [decode?_eq_some_iff]
  constructor
  · rintro ⟨t, same⟩
    exact ⟨t, List.toByteArray_inj.mp same.symm⟩
  · rintro ⟨t, rfl⟩
    exact ⟨t, rfl⟩

/-! ## Bytes that end a sequence -/

theorem continuation_append_stop {stop : UInt8} (ascii : stop < 0x80) (n bits : Nat)
    {lowest : UInt8} (low : 0x80 ≤ lowest) (highest : UInt8) (piece more : Bytes) :
    continuation n lowest highest bits (piece ++ stop :: more) =
      ((continuation n lowest highest bits piece).1,
        (continuation n lowest highest bits piece).2 ++ stop :: more) := by
  induction n generalizing lowest highest bits piece with
  | zero => rfl
  | succ n ih =>
      cases piece with
      | nil =>
          have outside : ¬(lowest ≤ stop ∧ stop ≤ highest) := fun inRange =>
            absurd (UInt8.le_trans low inRange.1) (UInt8.not_le.mpr ascii)
          simp [continuation, outside]
      | cons b piece =>
          rw [List.cons_append, continuation, continuation]
          split
          · exact ih _ (by decide) _ _
          · rfl

/-- A step that does not start at the stop does not go past it. -/
theorem decodeStep_append_stop {stop : UInt8} (ascii : stop < 0x80) (b : UInt8)
    (piece more : Bytes) :
    decodeStep b (piece ++ stop :: more) =
      ((decodeStep b piece).1, (decodeStep b piece).2 ++ stop :: more) := by
  by_cases single : b < 0x80
  · rw [decodeStep, decodeStep, if_pos single, if_pos single]
  rcases leads_or_none b with ⟨lead, leads⟩ | noLead
  · simp only [decodeStep, if_neg single, lead?_of_leads leads,
      continuation_append_stop ascii _ _ leads.lowest_ge]
  · simp [decodeStep, single, noLead]

/-- What is at fault before a stop stays at fault. -/
theorem decodeUpToFault_append_stop {stop : UInt8} (ascii : stop < 0x80) {piece : Bytes}
    {text : Text} {b : UInt8} {undecoded : Bytes}
    (fault : decodeUpToFault piece = (text, b :: undecoded)) (more : Bytes) :
    decodeUpToFault (piece ++ stop :: more) = (text, b :: undecoded ++ stop :: more) := by
  obtain ⟨bytes, faulty⟩ := decodeUpToFault_spec piece
  rw [fault] at bytes faulty
  have stays : (decodeStep b (undecoded ++ stop :: more)).1 = none := by
    rw [decodeStep_append_stop ascii]
    exact faulty b undecoded rfl
  rw [bytes, List.append_assoc, decodeUpToFault_encode_append, List.cons_append,
    decodeUpToFault_of_fault stays, List.append_nil]

end Multipage.Utf8
