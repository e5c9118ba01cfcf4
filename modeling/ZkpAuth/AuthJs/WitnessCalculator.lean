import ZkpAuth.AuthCpp.CalcWit
import ZkpAuth.AuthCpp.WitnessFile

/-!
# The JavaScript witness calculator

`build/auth_js/witness_calculator.js`: `fnvHash` hashes the name of an input, in integers without a
bound; `normalize` and `toArray32` make words of its value.  `calculateWTNSBin` fills an array of
words of 32 bits from what the compiled circuit exports.  It writes the length of a section as the
first eight digits and the next eight digits of its hexadecimal form.

## Main definitions

* `WitnessCalculator.normalize`, `WitnessCalculator.toArray32`, `WitnessCalculator.fromArray32` —
  from a value to words and back.
* `WitnessCalculator.fnvHash` — the hash, as its digits.
* `WitnessCalculator.Exports` — what `calculateWTNSBin` reads from the compiled circuit.
* `WitnessCalculator.calculateWTNSBin` — the bytes of the file.

## Main results

* `WitnessCalculator.calculateWTNSBin_eq_iff` — the file is the one of the C++ witness calculator
  exactly if its second section is shorter than `2 ^ 32`.
* `WitnessCalculator.toArray32_normalize` — the words of a value are those of its class.
* `WitnessCalculator.fnvHash_eq` — the hash of a name in ASCII is the one of the C++ code.
-/

set_option relaxedAutoImplicit false
set_option autoImplicit false

open Bn254 Bytes

namespace WitnessCalculator

/-! ## Inputs -/

/-- `normalize`, with the remainder of JavaScript, which has the sign of `n`. -/
def normalize (n prime : ℤ) : ℤ :=
  let res := n.tmod prime
  if res < 0 then res + prime else res

/-- The loop of `toArray32`. -/
def unshiftWords (rem : ℕ) (res : List ℕ) : List ℕ :=
  if h : rem = 0 then res
  else unshiftWords (rem / 0x100000000) (rem % 0x100000000 :: res)
termination_by rem
decreasing_by exact Nat.div_lt_self (Nat.pos_of_ne_zero h) (by decide)

/-- `toArray32`, with a size. -/
def toArray32 (rem size : ℕ) : List ℕ :=
  let res := unshiftWords rem []
  List.replicate (size - res.length) 0 ++ res

/-- `fromArray32`. -/
def fromArray32 (arr : List ℕ) : ℕ := arr.foldl (fun res x => res * 0x100000000 + x) 0

/-! ## Writing -/

/-- What `calculateWTNSBin` reads from the compiled circuit. -/
structure Exports where
  /-- `getFieldNumLen32()`. -/
  n32 : ℕ
  /-- `getWitnessSize()`. -/
  witnessSize : ℕ
  /-- `readSharedRWMemory(j)` after `getRawPrime()`. -/
  rawPrime : ℕ → ℕ
  /-- `readSharedRWMemory(j)` after `getWitness(i)`. -/
  witness : ℕ → ℕ → ℕ

/-- The digits of `toString(16)`, from the highest one on. -/
def toHex (e : ℕ) : List ℕ := if e = 0 then [0] else (Nat.digits 16 e).reverse

/-- `slice(i, j)`. -/
def slice (s : List ℕ) (i j : ℕ) : List ℕ := (s.drop i).take (j - i)

/-- `parseInt(s, 16)`.  `none` is `NaN`. -/
def parseHex (s : List ℕ) : Option ℕ := if s = [] then none else some (Nat.ofDigits 16 s.reverse)

/-- The entry of a `Uint32Array` after an assignment, in which `NaN` counts as `0`. -/
def toUint32 (x : Option ℕ) : ℕ := x.getD 0 % 2 ^ 32

/-- `fnvHash`, on the character codes of a string. -/
def fnvHash (str : List ℕ) : List ℕ :=
  let hash := str.foldl (fun hash c => (hash ^^^ c) * 0x100000001B3 % 2 ^ 64) 0xCBF29CE484222325
  let shash := toHex hash
  List.replicate (16 - shash.length) 0 ++ shash

/-- The two words for the length of a section. -/
def lengthWords (idSectionLength : ℕ) : List ℕ :=
  let idSectionLengthHex := toHex idSectionLength
  [toUint32 (parseHex (slice idSectionLengthHex 0 8)),
    toUint32 (parseHex (slice idSectionLengthHex 8 16))]

/-- `calculateWTNSBin`, after the witness is calculated. -/
def calculateWTNSBin (exports : Exports) : List UInt8 :=
  let n8 := exports.n32 * 4
  -- The entries of `buff32` from the second one on; each is assigned once, in this order.
  let buff32 := [2, 2] ++ [1] ++ lengthWords (8 + n8) ++ [n8] ++
    ((List.range exports.n32).map exports.rawPrime ++ [exports.witnessSize] ++ [2]) ++
    lengthWords (n8 * exports.witnessSize) ++
    (List.range exports.witnessSize).flatMap fun i =>
      (List.range exports.n32).map (exports.witness i)
  [0x77, 0x74, 0x6e, 0x73] ++ buff32.flatMap (bytesLE 4)

/-- A compiled circuit over the field whose witness has the elements `w`: eight words for each
number, from the lowest one on. -/
def exportsOf (w : ℕ → Fr) (witnessSize : ℕ) : Exports where
  n32 := 8
  witnessSize := witnessSize
  rawPrime j := r / (2 ^ 32) ^ j % 2 ^ 32
  witness i j := (w i).val / (2 ^ 32) ^ j % 2 ^ 32

/-! ## Lengths -/

/-- A length below `2 ^ 32` has eight digits at most, and the second word is that of `NaN`. -/
lemma lengthWords_of_lt {len : ℕ} (h : len < 2 ^ 32) : lengthWords len = [len, 0] := by
  by_cases hzero : len = 0
  · rw [hzero]
    rfl
  · have hlt : len < 16 ^ 8 := by omega
    have hlength : (Nat.digits 16 len).reverse.length ≤ 8 := by
      rw [List.length_reverse, Nat.digits_length_le_iff (by decide)]
      exact hlt
    have hne : (Nat.digits 16 len).reverse ≠ [] := by
      rw [Ne, List.reverse_eq_nil_iff]
      exact Nat.digits_ne_nil_iff_ne_zero.mpr hzero
    rw [lengthWords, toHex, if_neg hzero]
    simp only [slice, List.drop_zero, List.take_of_length_le hlength, parseHex, if_neg hne,
      List.reverse_reverse, Nat.ofDigits_digits, List.drop_of_length_le hlength, List.take_nil,
      if_pos, toUint32, Option.getD_some, Option.getD_none, Nat.zero_mod, Nat.mod_eq_of_lt h]

/-- A length of nine digits: the first word has the eight highest ones.

**Proof sketch.** The digits above the last are those of the quotient by 16, and there are eight
of them. -/
lemma lengthWords_of_le {len : ℕ} (h : 2 ^ 32 ≤ len) (hlt : len < 2 ^ 36) :
    lengthWords len = [len / 16, len % 16] := by
  have hdigits : Nat.digits 16 len = len % 16 :: Nat.digits 16 (len / 16) :=
    Nat.digits_def' (by decide) (by omega)
  have hlength : (Nat.digits 16 (len / 16)).reverse.length = 8 := by
    refine le_antisymm ?_ ?_
    · rw [List.length_reverse, Nat.digits_length_le_iff (by decide)]
      omega
    · rw [List.length_reverse, ← Nat.lt_iff_add_one_le, Nat.lt_digits_length_iff (by decide)]
      omega
  have hne : (Nat.digits 16 (len / 16)).reverse ≠ [] := by
    intro hnil
    rw [hnil] at hlength
    cases hlength
  have hzero : len ≠ 0 := by omega
  have hfirst : slice (toHex len) 0 8 = (Nat.digits 16 (len / 16)).reverse := by
    rw [toHex, if_neg hzero, hdigits, List.reverse_cons, slice, List.drop_zero, ← hlength,
      Nat.sub_zero, List.take_left]
  have hsecond : slice (toHex len) 8 16 = [len % 16] := by
    rw [toHex, if_neg hzero, hdigits, List.reverse_cons, slice]
    rw [List.drop_left' hlength]
    rfl
  have hparse : parseHex (Nat.digits 16 (len / 16)).reverse = some (len / 16) := by
    rw [parseHex, if_neg hne, List.reverse_reverse, Nat.ofDigits_digits]
  have hparse' : parseHex [len % 16] = some (len % 16) := by simp [parseHex]
  have hmod : len / 16 % 2 ^ 32 = len / 16 := Nat.mod_eq_of_lt (by omega)
  have hmod' : len % 16 % 2 ^ 32 = len % 16 := Nat.mod_eq_of_lt (by omega)
  simp only [lengthWords, hfirst, hsecond, hparse, hparse', toUint32, Option.getD_some, hmod, hmod']

/-- The two words have the bytes of the length exactly if it is below `2 ^ 32`. -/
lemma lengthWords_bytes_iff {n : ℕ} (hn : n < 2 ^ 31) :
    (lengthWords (32 * n)).flatMap (bytesLE 4) = bytesLE 8 (32 * n) ↔ n < 2 ^ 27 := by
  have hbytes : bytesLE 8 (32 * n) =
      bytesLE 4 (32 * n % 2 ^ 32) ++ bytesLE 4 (32 * n / 2 ^ 32) := bytesLE_add_four 4 (32 * n)
  have hflat : ∀ x y : ℕ, [x, y].flatMap (bytesLE 4) = bytesLE 4 x ++ bytesLE 4 y := by
    intro x y
    rw [List.flatMap_cons, List.flatMap_cons, List.flatMap_nil, List.append_nil]
  rw [hbytes]
  by_cases hlt : n < 2 ^ 27
  · refine iff_of_true ?_ hlt
    have hlen : 32 * n < 2 ^ 32 := by omega
    rw [lengthWords_of_lt hlen, hflat, Nat.mod_eq_of_lt hlen, Nat.div_eq_of_lt hlen]
  · refine iff_of_false (fun heq => ?_) hlt
    rw [lengthWords_of_le (by omega) (by omega), hflat] at heq
    have hsecond := (List.append_inj heq (by simp)).2
    have hvalue := congrArg ofBytesLE hsecond
    rw [ofBytesLE_bytesLE_of_lt (by omega), ofBytesLE_bytesLE_of_lt (by omega)] at hvalue
    omega

/-! ## The file -/

/-- The elements in words and in bytes. -/
lemma flatMap_witness (w : ℕ → Fr) (l : List ℕ) (n : ℕ) :
    (l.flatMap fun i => (List.range 8).map ((exportsOf w n).witness i)).flatMap (bytesLE 4) =
      (l.map fun i => bytesLE 32 (w i).val).flatten := by
  induction l with
  | nil => rfl
  | cons i l ih =>
    rw [List.flatMap_cons, List.flatMap_append, ih, List.map_cons, List.flatten_cons]
    exact congrArg (· ++ _) (flatMap_bytesLE_four 8 (w i).val)

/-- The four limbs are the bytes of their number. -/
lemma bytes_eq_bytesLE (a : AuthCpp.FrRawElement) : a.bytes = bytesLE 32 a.toNat := by
  have h := bytesLE_ofBytesLE a.bytes
  rw [a.length_bytes, a.ofBytesLE_bytes] at h
  exact h.symm

section File

variable {signalValues : ℕ → AuthCpp.FrElement} {v : ℕ → Fr} {witness2SignalList : ℕ → ℕ} {n : ℕ}

/-- **The two witness calculators write the same file** exactly if its second section is shorter
than `2 ^ 32`, for a witness below the bound of the C++ code.

**Proof sketch.** Both files are rewritten as the same bytes up to the length of the second
section, and the same witness behind it.  What is left to compare is how the length is written. -/
theorem calculateWTNSBin_eq_iff (hv : ∀ a, (signalValues a).Represents (v a)) (hn : n < 2 ^ 31) :
    calculateWTNSBin (exportsOf (fun i => v (witness2SignalList i)) n) =
      AuthCpp.writeBinWitness signalValues witness2SignalList n ↔ n < 2 ^ 27 := by
  set w : ℕ → Fr := fun i => v (witness2SignalList i)
  have hblocks : AuthCpp.witnessBlocks witness2SignalList n signalValues =
      (List.range n).map fun i => bytesLE 32 (w i).val := by
    apply List.map_congr_left
    intro i _
    have hi := hv (witness2SignalList i)
    have hnormal := hi.normal_toLongNormal (signalValues (witness2SignalList i))
    exact (bytes_eq_bytesLE _).trans (congrArg (bytesLE 32) hnormal.toNat_eq)
  set payload : List UInt8 := ((List.range n).map fun i => bytesLE 32 (w i).val).flatten
    with hpayload
  have hlength : payload.length = 32 * n := by
    rw [← AuthCpp.length_flatten_witnessBlocks witness2SignalList n, hblocks]
  have hcount : ((List.range n).map fun i => bytesLE 32 (w i).val).length = n := by simp
  have hq : AuthCpp.q.bytes = bytesLE 32 r := by rw [bytes_eq_bytesLE, AuthCpp.q_toNat]
  have hprime : ((List.range 8).map (exportsOf w n).rawPrime).flatMap (bytesLE 4) = bytesLE 32 r :=
    flatMap_bytesLE_four 8 r
  have hheader : (lengthWords (8 + 32)).flatMap (bytesLE 4) = bytesLE 8 40 := by decide
  have hchars : BinFile.charCodes "wtns" = [0x77, 0x74, 0x6e, 0x73] := by decide
  -- Both files up to the length of the second section.
  set start : List UInt8 := [0x77, 0x74, 0x6e, 0x73] ++ (bytesLE 4 2 ++ (bytesLE 4 2 ++
    (bytesLE 4 1 ++ (bytesLE 8 40 ++ (bytesLE 4 32 ++ (bytesLE 32 r ++ (bytesLE 4 n ++
      bytesLE 4 2)))))))
  have hjs : calculateWTNSBin (exportsOf w n) =
      start ++ ((lengthWords (32 * n)).flatMap (bytesLE 4) ++ payload) := by
    have hdef : calculateWTNSBin (exportsOf w n) = [0x77, 0x74, 0x6e, 0x73] ++
        ([2, 2] ++ [1] ++ lengthWords (8 + 32) ++ [32] ++
          ((List.range 8).map (exportsOf w n).rawPrime ++ [n] ++ [2]) ++ lengthWords (32 * n) ++
          (List.range n).flatMap fun i =>
            (List.range 8).map ((exportsOf w n).witness i)).flatMap (bytesLE 4) := rfl
    rw [hdef]
    simp only [start, List.flatMap_append, List.flatMap_cons, List.flatMap_nil, List.append_nil,
      hheader, hprime, flatMap_witness, List.append_assoc]
    rfl
  have hcpp : AuthCpp.writeBinWitness signalValues witness2SignalList n =
      start ++ (bytesLE 8 (32 * n) ++ payload) := by
    rw [AuthCpp.writeBinWitness_eq_encode, hblocks]
    simp only [start, BinFile.encode, Snarkjs.Wtns.sections, BinFile.encodeSection,
      List.flatMap_cons, List.flatMap_nil, List.append_nil, hchars, ← hpayload, hlength, hcount,
      hq, List.length_append, length_bytesLE, List.length_cons, List.length_nil, List.append_assoc]
  rw [hjs, hcpp, List.append_right_inj, List.append_left_inj, lengthWords_bytes_iff hn]

end File

/-- The smallest witness for which the length is wrong. -/
theorem calculateWTNSBin_sample :
    calculateWTNSBin (exportsOf (fun i => AuthCpp.Heap.sampleValue (2 - i)) (2 ^ 27)) ≠
      AuthCpp.writeBinWitness AuthCpp.Heap.sample (fun i => 2 - i) (2 ^ 27) := by
  rw [Ne, calculateWTNSBin_eq_iff AuthCpp.Heap.sample_represents (by decide)]
  decide

/-! ## Values of inputs -/

/-- The words of a number are its digits in base `2 ^ 32`, the highest first. -/
lemma unshiftWords_eq (rem : ℕ) (res : List ℕ) :
    unshiftWords rem res = (Nat.digits 0x100000000 rem).reverse ++ res := by
  fun_induction unshiftWords rem res with
  | case1 res => rw [Nat.digits_zero, List.reverse_nil, List.nil_append]
  | case2 rem res h ih =>
    rw [ih, Nat.digits_def' (by decide) (Nat.pos_of_ne_zero h), List.reverse_cons,
      List.append_assoc, List.singleton_append]

/-- The value of the words, the highest first. -/
lemma fromArray32_eq (arr : List ℕ) : fromArray32 arr = Nat.ofDigits 0x100000000 arr.reverse := by
  rw [fromArray32, Nat.ofDigits_eq_foldr, List.foldl_eq_foldr_reverse]
  congr 1
  funext x res
  rw [Nat.mul_comm, Nat.add_comm]
  rfl

/-- JavaScript's remainder is made that of the field. -/
lemma normalize_eq {prime : ℤ} (hprime : 0 < prime) (n : ℤ) : normalize n prime = n % prime := by
  have hnonneg := Int.emod_nonneg n hprime.ne'
  have hlt := Int.emod_lt_of_pos n hprime
  have habs : (prime.natAbs : ℤ) = prime := Int.natAbs_of_nonneg hprime.le
  rw [normalize, Int.tmod_eq_emod]
  by_cases hn : 0 ≤ n ∨ prime ∣ n
  · simp only [if_pos hn, Nat.cast_zero, sub_zero]
    rw [if_neg (not_lt.mpr hnonneg)]
  · simp only [if_neg hn, habs]
    rw [if_pos (by omega), sub_add_cancel]

/-- **An input is passed on as the field element of its value.**  For every integer, the words that
are written have the representative of its class as their number, and there are eight of them.

**Proof sketch.** The digits in the base `2 ^ 32`, with zeros in front of them. -/
theorem toArray32_normalize (n : ℤ) :
    fromArray32 (toArray32 (normalize n r).toNat 8) = ((n : ℤ) : Fr).val ∧
      (toArray32 (normalize n r).toNat 8).length = 8 ∧
        ∀ x ∈ toArray32 (normalize n r).toNat 8, x < 2 ^ 32 := by
  have hr : (0 : ℤ) < r := by exact_mod_cast r_prime.pos
  have hval : (normalize n r).toNat = ((n : ℤ) : Fr).val := by
    rw [normalize_eq hr]
    have hcast := ZMod.val_intCast (n := r) n
    omega
  have hlt : ((n : ℤ) : Fr).val < 0x100000000 ^ 8 :=
    (ZMod.val_lt _).trans (by decide)
  rw [hval]
  set m := ((n : ℤ) : Fr).val
  have hlen : (Nat.digits 0x100000000 m).length ≤ 8 :=
    (Nat.digits_length_le_iff (by decide) m).mpr hlt
  rw [toArray32, unshiftWords_eq, List.append_nil]
  refine ⟨?_, ?_, ?_⟩
  · rw [fromArray32_eq, List.reverse_append, List.reverse_reverse, List.reverse_replicate,
      Nat.ofDigits_append_replicate_zero, Nat.ofDigits_digits]
  · rw [List.length_append, List.length_replicate, List.length_reverse]
    omega
  · intro x hx
    rcases List.mem_append.mp hx with hx | hx
    · rw [List.eq_of_mem_replicate hx]
      decide
    · exact Nat.digits_lt_base (by decide) (List.mem_reverse.mp hx)

/-! ## Hashes of names -/

/-- The hash before it is printed is the one of the C++ code.

**Proof sketch.** Induction on the characters.  Below 128 the byte is the character, and its sign
extension does nothing. -/
lemma foldl_eq_fnv1a {s : String} (hs : ∀ c ∈ s.toList, c.toNat < 128) :
    (s.toList.map Char.toNat).foldl (fun hash c => (hash ^^^ c) * 0x100000001B3 % 2 ^ 64)
      0xCBF29CE484222325 = (AuthCpp.fnv1a s).toNat := by
  have hstep : ∀ (l : List Char) (hash : UInt64), (∀ c ∈ l, c.toNat < 128) →
      (l.map Char.toNat).foldl (fun hash c => (hash ^^^ c) * 0x100000001B3 % 2 ^ 64) hash.toNat =
        ((l.map fun c => UInt8.ofNat c.toNat).foldl
          (fun hash c =>
            (hash ^^^ (if c < 0x80 then c.toUInt64 else c.toUInt64 ||| 0xFFFFFFFFFFFFFF00)) *
              0x100000001B3) hash).toNat := by
    intro l
    induction l with
    | nil => exact fun _ _ => rfl
    | cons c l ih =>
      intro hash hl
      have hc : c.toNat < 128 := hl c List.mem_cons_self
      have hbyte : (UInt8.ofNat c.toNat).toNat = c.toNat := by
        rw [UInt8.toNat_ofNat']
        omega
      have hlow : UInt8.ofNat c.toNat < 0x80 := by
        rw [UInt8.lt_iff_toNat_lt, hbyte]
        exact hc
      have hword : ((hash ^^^ (UInt8.ofNat c.toNat).toUInt64) * 0x100000001B3).toNat =
          (hash.toNat ^^^ c.toNat) * 0x100000001B3 % 2 ^ 64 := by
        rw [UInt64.toNat_mul, UInt64.toNat_xor, UInt8.toNat_toUInt64, hbyte]
        rfl
      rw [List.map_cons, List.map_cons, List.foldl_cons, List.foldl_cons, if_pos hlow, ← hword]
      exact ih _ fun d hd => hl d (List.mem_cons_of_mem c hd)
  rw [AuthCpp.fnv1a, Bytes.toUTF8_toList hs]
  exact hstep s.toList 0xCBF29CE484222325 hs

/-- The number of hexadecimal digits of which the upper and the lower half are taken.

**Proof sketch.** The padded number has 16 digits.  Cut after the eighth from the front, its value
is `2 ^ 32` times that of the first half plus that of the second, which is below `2 ^ 32`. -/
lemma parseHex_halves {x : ℕ} (hx : x < 2 ^ 64) {h : List ℕ}
    (hh : h = List.replicate (16 - (toHex x).length) 0 ++ toHex x) :
    parseHex (slice h 0 8) = some (x / 2 ^ 32) ∧
      parseHex (slice h 8 16) = some (x % 2 ^ 32) := by
  have hdigits : ∀ d ∈ toHex x, d < 16 := by
    intro d hd
    rw [toHex] at hd
    split_ifs at hd with hzero
    · rw [List.mem_singleton.mp hd]
      decide
    · exact Nat.digits_lt_base (by decide) (List.mem_reverse.mp hd)
  have hvalue : Nat.ofDigits 16 (toHex x).reverse = x := by
    rw [toHex]
    split_ifs with hzero
    · rw [hzero]
      rfl
    · rw [List.reverse_reverse, Nat.ofDigits_digits]
  have hshort : (toHex x).length ≤ 16 := by
    rw [toHex]
    split_ifs with hzero
    · decide
    · rw [List.length_reverse, Nat.digits_length_le_iff (by decide)]
      omega
  have hlength : h.length = 16 := by
    rw [hh, List.length_append, List.length_replicate]
    omega
  have hlt : ∀ d ∈ h, d < 16 := by
    intro d hd
    rw [hh, List.mem_append] at hd
    rcases hd with hd | hd
    · rw [List.eq_of_mem_replicate hd]
      decide
    · exact hdigits d hd
  have htotal : Nat.ofDigits 16 h.reverse = x := by
    rw [hh, List.reverse_append, List.reverse_replicate, Nat.ofDigits_append_replicate_zero, hvalue]
  have hsplit : h.reverse = (h.drop 8).reverse ++ (h.take 8).reverse := by
    rw [← List.reverse_append, List.take_append_drop]
  have hlow : ((h.drop 8).reverse).length = 8 := by simp [hlength]
  have hbound : Nat.ofDigits 16 (h.drop 8).reverse < 16 ^ 8 := by
    have hb := Nat.ofDigits_lt_base_pow_length (b := 16) (l := (h.drop 8).reverse) (by decide)
      fun d hd => hlt d (List.mem_of_mem_drop (List.mem_reverse.mp hd))
    rwa [hlow] at hb
  rw [hsplit, Nat.ofDigits_append, hlow] at htotal
  have hfirst : slice h 0 8 = h.take 8 := rfl
  have hsecond : slice h 8 16 = h.drop 8 := by
    rw [slice, List.take_of_length_le]
    simp [hlength]
  have hne : h.take 8 ≠ [] := by
    intro hnil
    have hlen := congrArg List.length hnil
    simp [hlength] at hlen
  have hne' : h.drop 8 ≠ [] := by
    intro hnil
    have hlen := congrArg List.length hnil
    simp [hlength] at hlen
  rw [hfirst, hsecond, parseHex, parseHex, if_neg hne, if_neg hne', Option.some_inj,
    Option.some_inj]
  omega

/-- **The two calculators find an input by the same hash**, for a name in ASCII: the halves that the
JavaScript code passes on are those of the hash of the C++ code. -/
theorem fnvHash_eq {s : String} (hs : ∀ c ∈ s.toList, c.toNat < 128) :
    parseHex (slice (fnvHash (s.toList.map Char.toNat)) 0 8) =
        some ((AuthCpp.fnv1a s).toNat / 2 ^ 32) ∧
      parseHex (slice (fnvHash (s.toList.map Char.toNat)) 8 16) =
        some ((AuthCpp.fnv1a s).toNat % 2 ^ 32) := by
  have hlt : (AuthCpp.fnv1a s).toNat < 2 ^ 64 := (AuthCpp.fnv1a s).toNat_lt
  refine parseHex_halves hlt ?_
  rw [fnvHash, foldl_eq_fnv1a hs]

/-- The name of an input. -/
theorem fnvHash_storedRole :
    parseHex (slice (fnvHash ("storedRole".toList.map Char.toNat)) 0 8) =
        some ((AuthCpp.fnv1a "storedRole").toNat / 2 ^ 32) ∧
      parseHex (slice (fnvHash ("storedRole".toList.map Char.toNat)) 8 16) =
        some ((AuthCpp.fnv1a "storedRole").toNat % 2 ^ 32) :=
  fnvHash_eq (by simp)

end WitnessCalculator
