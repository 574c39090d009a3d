import Mathlib.Tactic.ByContra
import Mathlib.Tactic.SplitIfs

/-!
# The order of the bytes

Texts are ordered by the code points of their characters.  In UTF-8 that is the order of
their bytes: a higher code point has no fewer bytes, a longer code begins with a higher byte,
and codes of one length count upwards.

Main facts:

* `utf8EncodeChar_append_lt`: the bytes of a higher character are higher, whatever follows;
* `bytes_lt_iff`: texts are ordered as their bytes are.
-/

namespace ButtonCombo
namespace Text

open String (utf8EncodeChar)

/-- The bytes of a text in UTF-8. -/
def bytes (text : String) : List UInt8 :=
  text.toUTF8.data.toList

theorem bytes_eq_flatMap
    (text : String) :
    bytes text = text.toList.flatMap utf8EncodeChar := by
  obtain ⟨cs, rfl⟩ : ∃ cs, text = String.ofList cs := ⟨text.toList, String.ofList_toList.symm⟩
  rw [bytes, String.toUTF8_eq_toByteArray, String.toByteArray_ofList, List.utf8Encode,
    List.toList_data_toByteArray, String.toList_ofList]

/-- Numbers compare as what stands before their last six bits, and then as these. -/
theorem lt_iff_last_bits
    (m n : Nat) :
    m < n ↔ m / 64 < n / 64 ∨ m / 64 = n / 64 ∧ m % 64 < n % 64 := by
  omega

/-- The same three times over, from the highest bits down. -/
theorem bits_lt_of_lt
    {m n : Nat}
    (h : m < n) :
    m / 262144 < n / 262144 ∨ m / 262144 = n / 262144 ∧
      (m / 4096 % 64 < n / 4096 % 64 ∨ m / 4096 % 64 = n / 4096 % 64 ∧
        (m / 64 % 64 < n / 64 % 64 ∨ m / 64 % 64 = n / 64 % 64 ∧ m % 64 < n % 64)) := by
  rw [lt_iff_last_bits, lt_iff_last_bits (m / 64), lt_iff_last_bits (m / 64 / 64)] at h
  simp only [Nat.div_div_eq_div_mul, Nat.reduceMul] at h
  omega

theorem toNat_lt_of_char (c : Char) :
    c.val.toNat < 0x110000 := by
  have hvalid := c.valid
  simp only [UInt32.isValidChar, Nat.isValidChar] at hvalid
  omega

/-- The bytes of a higher character are higher, whatever follows them. -/
theorem utf8EncodeChar_append_lt
    {c d : Char}
    (h : c < d)
    (rest after : List UInt8) :
    utf8EncodeChar c ++ rest < utf8EncodeChar d ++ after := by
  have hcode : c.val.toNat < d.val.toNat := h
  have hc := toNat_lt_of_char c
  have hd := toNat_lt_of_char d
  -- codes of one length are compared six bits at a time, from the first byte on
  have hbits := bits_lt_of_lt hcode
  have hlead : ∀ n < 0x110000, n / 262144 % 8 = n / 262144 := by omega
  simp only [utf8EncodeChar]
  split_ifs <;>
    simp (disch := omega) only [List.cons_append, List.nil_append, List.cons_lt_cons_iff,
      UInt8.lt_iff_toNat_lt, ← UInt8.toNat_inj, UInt8.toNat_ofNat', Nat.mod_eq_of_lt,
      hlead _ hc, hlead _ hd] <;>
    omega

theorem flatMap_utf8EncodeChar_lt
    {cs ds : List Char}
    (h : cs < ds) :
    cs.flatMap utf8EncodeChar < ds.flatMap utf8EncodeChar := by
  induction h with
  | @nil d ds =>
      rw [List.flatMap_cons]
      cases hd : utf8EncodeChar d with
      | nil => exact absurd hd String.utf8EncodeChar_ne_nil
      | cons byte bytes => exact List.nil_lt_cons byte _
  | @rel c cs d ds hcd =>
      rw [List.flatMap_cons, List.flatMap_cons]
      exact utf8EncodeChar_append_lt hcd _ _
  | @cons c cs ds _ ih =>
      rw [List.flatMap_cons, List.flatMap_cons]
      exact List.append_left_lt ih

/-- Texts are ordered as their bytes are. -/
theorem bytes_lt_iff
    {text other : String} :
    bytes text < bytes other ↔ text < other := by
  rw [bytes_eq_flatMap, bytes_eq_flatMap]
  constructor
  · intro h
    by_contra hnot
    by_cases heq : other = text
    · exact List.lt_irrefl _ (heq ▸ h)
    · have hlt := Std.lt_of_le_of_ne (String.not_lt.mp hnot) heq
      exact List.lt_asymm h (flatMap_utf8EncodeChar_lt (String.lt_iff.mp hlt))
  · intro h
    exact flatMap_utf8EncodeChar_lt (String.lt_iff.mp h)

end Text
end ButtonCombo
