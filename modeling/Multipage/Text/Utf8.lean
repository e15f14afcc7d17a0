/-
# Multipage.Text.Utf8 -- bytes and the text they stand for

A well-formed sequence is a lead byte and the continuation bytes that the lead asks for;
four leads narrow the range of the first continuation byte, which rules out overlong forms,
surrogates and numbers past U+10FFFF (`Lead`).

* `decodeStep` reads one character, or says where reading goes on after the longest
  ill-formed start of a sequence;
* `decodeUpToFault` reads characters until the first fault and returns the rest undecoded;
* `decode?` asks for a text without a fault, `decodeLossy` puts U+FFFD for every fault;
* `encode` is the way back.
-/
import Multipage.Text.Basic

namespace Multipage.Utf8

set_option autoImplicit false

/-- What a lead byte of a longer sequence asks for: the bits it gives, how many
continuation bytes follow, and the range of the first of them. -/
structure Lead where
  bits : Nat
  following : Nat
  lowest : UInt8 := 0x80
  highest : UInt8 := 0xBF

/-- The lead bytes of sequences of two, three and four bytes. -/
def lead? (b : UInt8) : Option Lead :=
  if b < 0xC2 then none
  else if b < 0xE0 then some { bits := b.toNat - 0xC0, following := 1 }
  else if b = 0xE0 then some { bits := 0, following := 2, lowest := 0xA0 }
  else if b = 0xED then some { bits := 0xD, following := 2, highest := 0x9F }
  else if b < 0xF0 then some { bits := b.toNat - 0xE0, following := 2 }
  else if b = 0xF0 then some { bits := 0, following := 3, lowest := 0x90 }
  else if b < 0xF4 then some { bits := b.toNat - 0xF0, following := 3 }
  else if b = 0xF4 then some { bits := 4, following := 3, highest := 0x8F }
  else none

/-- Read `following` continuation bytes, the first of them between `lowest` and `highest`.
The number is absent when a byte is missing or out of range; the rest starts at that byte. -/
def continuation : (following : Nat) → (lowest highest : UInt8) → (bits : Nat) → Bytes →
    Option Nat × Bytes
  | 0, _, _, bits, rest => (some bits, rest)
  | _ + 1, _, _, _, [] => (none, [])
  | n + 1, lowest, highest, bits, b :: rest =>
      if lowest ≤ b ∧ b ≤ highest then
        continuation n 0x80 0xBF (bits * 64 + (b.toNat - 0x80)) rest
      else (none, b :: rest)

/-- Read the sequence that starts with `b`: its character, absent when the sequence is
ill-formed, and what follows it. -/
def decodeStep (b : UInt8) (rest : Bytes) : Option Char × Bytes :=
  if b < 0x80 then (some (Char.ofNat b.toNat), rest)
  else
    match lead? b with
    | none => (none, rest)
    | some lead =>
        let (number, rest) := continuation lead.following lead.lowest lead.highest lead.bits rest
        (number.map Char.ofNat, rest)

theorem length_continuation_le (n : Nat) (lowest highest : UInt8) (bits : Nat) (bs : Bytes) :
    (continuation n lowest highest bits bs).2.length ≤ bs.length := by
  induction n generalizing lowest highest bits bs with
  | zero => simp [continuation]
  | succ n ih =>
    cases bs with
    | nil => simp [continuation]
    | cons b rest =>
      simp only [continuation]
      split
      · exact Nat.le_trans (ih _ _ _ _) (by simp)
      · simp

/-- A step never gives back more than it was handed. -/
theorem length_decodeStep_le (b : UInt8) (rest : Bytes) :
    (decodeStep b rest).2.length ≤ rest.length := by
  unfold decodeStep
  split
  · exact Nat.le_refl _
  · split
    · exact Nat.le_refl _
    · exact length_continuation_le _ _ _ _ _

/-- The characters up to the first ill-formed sequence, and the bytes from there on. -/
def decodeUpToFault : Bytes → Text × Bytes
  | [] => ([], [])
  | b :: rest =>
      match _h : decodeStep b rest with
      | (none, _) => ([], b :: rest)
      | (some c, later) =>
          let (text, undecoded) := decodeUpToFault later
          (c :: text, undecoded)
termination_by bs => bs.length
decreasing_by
  have bound := length_decodeStep_le b rest
  simp only [_h] at bound
  simp only [List.length_cons]
  omega

/-- The text of `bs`, when every sequence in it is well formed. -/
def decode? (bs : Bytes) : Option Text :=
  match decodeUpToFault bs with
  | (text, []) => some text
  | (_, _ :: _) => none

/-- The replacement character. -/
def replacement : Char := '\uFFFD'

/-- The text of `bs` with U+FFFD for each longest ill-formed start of a sequence. -/
def decodeLossy : Bytes → Text
  | [] => []
  | b :: rest =>
      let step := decodeStep b rest
      step.1.getD replacement :: decodeLossy step.2
termination_by bs => bs.length
decreasing_by
  have bound := length_decodeStep_le b rest
  simp only [List.length_cons]
  omega

/-- The bytes of a text. -/
def encode (t : Text) : Bytes := t.flatMap String.utf8EncodeChar

end Multipage.Utf8
