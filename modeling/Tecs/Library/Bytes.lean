import Mathlib

set_option autoImplicit false

/-! Words and arrays in a buffer of bytes. -/

namespace Bytes

section BitFields

/-! The ranges of bit-fields of 1, 2, 3, 5 and 12 bits. -/

instance neZero_two : NeZero 2 := ⟨two_ne_zero⟩

instance neZero_four : NeZero 4 := ⟨four_ne_zero⟩

instance neZero_eight : NeZero 8 := ⟨Nat.succ_ne_zero 7⟩

instance neZero_thirtyTwo : NeZero 32 := ⟨Nat.succ_ne_zero 31⟩

instance neZero_fourThousandNinetySix : NeZero 4096 := ⟨Nat.succ_ne_zero 4095⟩

end BitFields

/-- The bytes of a word, the high one first. -/
def ofWord (word : UInt16) : List UInt8 := [(word >>> 8).toUInt8, word.toUInt8]

def word (high low : UInt8) : UInt16 := high.toUInt16 <<< 8 ||| low.toUInt16

/-- The array at the front of a buffer, if the buffer holds that many bytes. -/
def readArray (n : ℕ) (buf : List UInt8) : Option (Vector UInt8 n) :=
  if fits : n ≤ buf.length then some ⟨(buf.take n).toArray, by simp [fits]⟩ else none

@[simp] theorem length_ofWord (word : UInt16) : (ofWord word).length = 2 := rfl

theorem toNat_word (high low : UInt8) : (word high low).toNat = high.toNat * 256 + low.toNat := by
  have low_lt := low.toNat_lt
  have high_lt := high.toNat_lt
  have shifted : high.toNat <<< 8 ||| low.toNat = high.toNat <<< 8 + low.toNat :=
    (Nat.shiftLeft_add_eq_or_of_lt low_lt high.toNat).symm
  have small : high.toNat <<< 8 % 2 ^ 16 = high.toNat <<< 8 := by
    rw [Nat.shiftLeft_eq]
    omega
  simp only [word, UInt16.toNat_or, UInt16.toNat_shiftLeft, UInt8.toNat_toUInt16]
  change high.toNat <<< 8 % 2 ^ 16 ||| low.toNat = _
  rw [small, shifted, Nat.shiftLeft_eq]

theorem toNat_high (word : UInt16) : (word >>> 8).toUInt8.toNat = word.toNat / 256 := by
  have bound := word.toNat_lt
  simp only [UInt16.toNat_toUInt8, UInt16.toNat_shiftRight]
  change word.toNat >>> 8 % 2 ^ 8 = _
  rw [Nat.shiftRight_eq_div_pow]
  omega

theorem toNat_low (word : UInt16) : word.toUInt8.toNat = word.toNat % 256 := by
  rw [UInt16.toNat_toUInt8]

/-- Taking a word to bytes and back changes nothing. -/
@[simp] theorem word_ofWord (w : UInt16) : word (w >>> 8).toUInt8 w.toUInt8 = w := by
  apply UInt16.toNat_inj.mp
  rw [toNat_word, toNat_high, toNat_low]
  omega

theorem readArray_append {n : ℕ} (array : Vector UInt8 n) (rest : List UInt8) :
    readArray n (array.toList ++ rest) = some array := by
  have fits : n ≤ (array.toList ++ rest).length := by simp
  rw [readArray, dif_pos fits]
  have taken : (array.toList ++ rest).take n = array.toList := List.take_left' (by simp)
  simp only [taken, Option.some.injEq]
  rfl

end Bytes
