import Mathlib.Data.Nat.Digits.Defs
import Mathlib.Data.Nat.Digits.Lemmas

/-!
# Numbers as bytes

The lowest bytes of a number, from the lowest one on, and the number that some bytes stand for.

## Main definitions

* `Bytes.bytesLE`, `Bytes.ofBytesLE` — from a number to bytes and back.

## Main results

* `Bytes.ofBytesLE_bytesLE`, `Bytes.bytesLE_ofBytesLE` — the round trips.
* `Bytes.flatMap_bytesLE_four` — the bytes of a number in words.
* `Bytes.toUTF8_toList` — the bytes of a string in ASCII.
-/

set_option relaxedAutoImplicit false
set_option autoImplicit false

namespace Bytes

/-- The `k` lowest bytes of `n`. -/
def bytesLE : ℕ → ℕ → List UInt8
  | 0, _ => []
  | k + 1, n => UInt8.ofNat n :: bytesLE k (n / 256)

/-- The number that bytes stand for. -/
def ofBytesLE (l : List UInt8) : ℕ := Nat.ofDigits 256 (l.map UInt8.toNat)

/-- The number of bytes. -/
@[simp]
lemma length_bytesLE (k n : ℕ) : (bytesLE k n).length = k := by
  induction k generalizing n with
  | zero => rfl
  | succ k ih => rw [bytesLE, List.length_cons, ih]

/-- The bytes stand for the number, as far as there is room. -/
theorem ofBytesLE_bytesLE (k n : ℕ) : ofBytesLE (bytesLE k n) = n % 256 ^ k := by
  induction k generalizing n with
  | zero => rw [pow_zero, Nat.mod_one]; rfl
  | succ k ih =>
    have hhead : (UInt8.ofNat n).toNat = n % 256 := UInt8.toNat_ofNat'
    have htail : Nat.ofDigits 256 ((bytesLE k (n / 256)).map UInt8.toNat) = n / 256 % 256 ^ k :=
      ih (n / 256)
    rw [bytesLE, ofBytesLE, List.map_cons, Nat.ofDigits_cons, hhead, htail, pow_succ', Nat.mod_mul]

/-- A number that fits is read back. -/
theorem ofBytesLE_bytesLE_of_lt {k n : ℕ} (h : n < 256 ^ k) : ofBytesLE (bytesLE k n) = n := by
  rw [ofBytesLE_bytesLE, Nat.mod_eq_of_lt h]

/-- The value of two parts. -/
theorem ofBytesLE_append (l l' : List UInt8) :
    ofBytesLE (l ++ l') = ofBytesLE l + 256 ^ l.length * ofBytesLE l' := by
  rw [ofBytesLE, List.map_append, Nat.ofDigits_append, List.length_map]
  rfl

/-- Every list of bytes is the one of its number. -/
theorem bytesLE_ofBytesLE (l : List UInt8) : bytesLE l.length (ofBytesLE l) = l := by
  induction l with
  | nil => rfl
  | cons c l ih =>
    have hvalue : ofBytesLE (c :: l) = c.toNat + 256 * ofBytesLE l := by
      rw [ofBytesLE, List.map_cons, Nat.ofDigits_cons]
      rfl
    have hc : c.toNat < 256 := c.toNat_lt
    have hhead : UInt8.ofNat (c.toNat + 256 * ofBytesLE l) = c := by
      rw [← UInt8.toNat_inj, UInt8.toNat_ofNat']
      omega
    have htail : (c.toNat + 256 * ofBytesLE l) / 256 = ofBytesLE l := by omega
    rw [List.length_cons, bytesLE, hvalue, hhead, htail, ih]

/-- A word of four bytes comes first. -/
theorem bytesLE_add_four (k n : ℕ) :
    bytesLE (k + 4) n = bytesLE 4 (n % 2 ^ 32) ++ bytesLE k (n / 2 ^ 32) := by
  have hbyte : ∀ m m' : ℕ, m % 256 = m' % 256 → UInt8.ofNat m = UInt8.ofNat m' := by
    intro m m' h
    rw [← UInt8.toNat_inj, UInt8.toNat_ofNat', UInt8.toNat_ofNat']
    exact h
  have hquot : n / 256 / 256 / 256 / 256 = n / 2 ^ 32 := by omega
  simp only [bytesLE, List.cons_append, List.nil_append, hquot]
  rw [hbyte n (n % 2 ^ 32) (by omega), hbyte (n / 256) (n % 2 ^ 32 / 256) (by omega),
    hbyte (n / 256 / 256) (n % 2 ^ 32 / 256 / 256) (by omega),
    hbyte (n / 256 / 256 / 256) (n % 2 ^ 32 / 256 / 256 / 256) (by omega)]

/-- A number in words of four bytes. -/
theorem flatMap_bytesLE_four (k n : ℕ) :
    ((List.range k).map fun j => n / (2 ^ 32) ^ j % 2 ^ 32).flatMap (bytesLE 4) =
      bytesLE (4 * k) n := by
  induction k generalizing n with
  | zero => rfl
  | succ k ih =>
    have hshift : ∀ j, n / (2 ^ 32) ^ (j + 1) % 2 ^ 32 = n / 2 ^ 32 / (2 ^ 32) ^ j % 2 ^ 32 := by
      intro j
      rw [Nat.div_div_eq_div_mul, pow_succ']
    rw [List.range_succ_eq_map, List.map_cons, List.flatMap_cons, List.map_map, pow_zero,
      Nat.div_one]
    simp only [Function.comp_def, Nat.succ_eq_add_one, hshift]
    rw [ih, Nat.mul_succ, bytesLE_add_four (4 * k)]

/-! ## Strings -/

/-- The loop that makes a list of an array of bytes. -/
lemma toList_loop (bs : ByteArray) (i : ℕ) (l : List UInt8) :
    ByteArray.toList.loop bs i l = l.reverse ++ bs.data.toList.drop i := by
  fun_induction ByteArray.toList.loop bs i l with
  | case1 i l h ih =>
    have hlt : i < bs.data.toList.length := by simpa using h
    have hget : bs.get! i = bs.data.toList[i] := by
      have hi : i < bs.data.size := h
      exact (getElem!_pos bs.data i hi).trans (Array.getElem_toList hi).symm
    rw [ih, List.reverse_cons, List.append_assoc, List.drop_eq_getElem_cons hlt, hget,
      List.singleton_append]
  | case2 i l h =>
    have hle : bs.data.toList.length ≤ i := by simpa using h
    rw [List.drop_of_length_le hle, List.append_nil]

/-- The bytes of a string in ASCII are its characters. -/
theorem toUTF8_toList {s : String} (hs : ∀ c ∈ s.toList, c.toNat < 128) :
    s.toUTF8.toList = s.toList.map fun c => UInt8.ofNat c.toNat := by
  have hbytes : s.toUTF8.toList = s.toList.flatMap String.utf8EncodeChar := by
    rw [ByteArray.toList, toList_loop, String.toUTF8_eq_toByteArray,
      ← String.utf8Encode_toList, List.utf8Encode]
    simp
  rw [hbytes]
  generalize s.toList = l at hs ⊢
  induction l with
  | nil => rfl
  | cons c l ih =>
    have hc : c.toNat < 128 := hs c List.mem_cons_self
    have hsize : c.utf8Size = 1 := by
      rw [Char.utf8Size_eq_one_iff]
      exact UInt32.le_iff_toNat_le.mpr (by change c.toNat ≤ 127; omega)
    rw [List.flatMap_cons, ih fun d hd => hs d (List.mem_cons_of_mem c hd), List.map_cons,
      String.utf8EncodeChar_eq_singleton hsize]
    rfl

end Bytes
