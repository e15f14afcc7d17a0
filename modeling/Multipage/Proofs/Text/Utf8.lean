/-
# Multipage.Proofs.Text.Utf8 -- text of ASCII as bytes

A character below 0x80 is one byte, its code point (`encode_ascii`).  So what is said of the bytes
of such a text can be said of its characters (`mem_encode_ascii`).
-/
import Multipage.Text.Utf8
import Mathlib.Data.List.Basic

namespace Multipage.Utf8

set_option autoImplicit false

theorem encodeChar_ascii (c : Char) (ascii : c.toNat < 128) :
    String.utf8EncodeChar c = [UInt8.ofNat c.toNat] := by
  have one : c.utf8Size = 1 := by
    rw [Char.utf8Size_eq_one_iff, UInt32.le_iff_toNat_le]
    exact Nat.le_of_lt_succ ascii
  exact String.utf8EncodeChar_eq_singleton one

theorem encode_cons_ascii (c : Char) (t : Text) (ascii : c.toNat < 128) :
    encode (c :: t) = UInt8.ofNat c.toNat :: encode t := by
  simp [encode, encodeChar_ascii c ascii]

/-- Each character of a text of ASCII is one byte. -/
theorem encode_ascii {t : Text} (ascii : ∀ c ∈ t, c.toNat < 128) :
    encode t = t.map fun c => UInt8.ofNat c.toNat := by
  induction t with
  | nil => rfl
  | cons c rest ih =>
      rw [encode_cons_ascii c rest (ascii c List.mem_cons_self),
        ih fun d mem => ascii d (List.mem_cons_of_mem c mem), List.map_cons]

theorem toNat_ofNat_ascii (c : Char) (ascii : c.toNat < 128) :
    (UInt8.ofNat c.toNat).toNat = c.toNat := by
  rw [UInt8.toNat_ofNat']
  omega

/-- The bytes of a text of ASCII are the code points of its characters. -/
theorem mem_encode_ascii {t : Text} (ascii : ∀ c ∈ t, c.toNat < 128) {b : UInt8}
    (mem : b ∈ encode t) : ∃ c ∈ t, b.toNat = c.toNat := by
  rw [encode_ascii ascii, List.mem_map] at mem
  obtain ⟨c, here, rfl⟩ := mem
  exact ⟨c, here, toNat_ofNat_ascii c (ascii c here)⟩

end Multipage.Utf8
