import ZkpAuth.AuthCpp.Fr.Element
import ZkpAuth.Snarkjs.WtnsUtils

/-!
# The witness file of the C++ witness calculator

`writeBinWitness` of `auth_cpp/main.cpp` writes the signals of the witness as limbs in normal form.
snarkjs reads the file.

## Main definitions

* `AuthCpp.writeBinWitness` — the bytes of the file.

## Main results

* `AuthCpp.read_writeBinWitness` — snarkjs reads the representatives of the signals.
-/

set_option relaxedAutoImplicit false
set_option autoImplicit false

open Bn254 Bytes

namespace AuthCpp

/-! ## Writing -/

/-- The limbs in memory, which `fwrite` copies. -/
def FrRawElement.bytes (a : FrRawElement) : List UInt8 :=
  bytesLE 8 a.v0.toNat ++ bytesLE 8 a.v1.toNat ++ bytesLE 8 a.v2.toNat ++ bytesLE 8 a.v3.toNat

/-- `Fr_N64`. -/
def N64 : ℕ := 4

/-- `getWitness`. -/
def getWitness (signalValues : ℕ → FrElement) (witness2SignalList : ℕ → ℕ) (idx : ℕ) : FrElement :=
  signalValues (witness2SignalList idx)

/-- `writeBinWitness`, for `Nwtns` below `2 ^ 31`. -/
def writeBinWitness (signalValues : ℕ → FrElement) (witness2SignalList : ℕ → ℕ) (Nwtns : ℕ) :
    List UInt8 :=
  let n8 := N64 * 8
  let idSection1length := 8 + n8
  let idSection2length := n8 * Nwtns
  -- The characters `wtns`, the version and the number of sections.
  let write_ptr := [0x77, 0x74, 0x6e, 0x73] ++ bytesLE 4 2 ++ bytesLE 4 2
  let write_ptr := write_ptr ++ bytesLE 4 1 ++ bytesLE 8 idSection1length
  let write_ptr := write_ptr ++ bytesLE 4 n8 ++ q.bytes ++ bytesLE 4 Nwtns
  let write_ptr := write_ptr ++ bytesLE 4 2 ++ bytesLE 8 idSection2length
  (List.range Nwtns).foldl
    (fun write_ptr i =>
      let v := getWitness signalValues witness2SignalList i
      write_ptr ++ (toLongNormal v v).longVal.bytes)
    write_ptr

/-! ## Limbs as bytes -/

/-- An element has 32 bytes. -/
theorem FrRawElement.length_bytes (a : FrRawElement) : a.bytes.length = 32 := by
  simp [FrRawElement.bytes]

/-- The bytes of the limbs are those of their number. -/
theorem FrRawElement.ofBytesLE_bytes (a : FrRawElement) : ofBytesLE a.bytes = a.toNat := by
  have hlimb : ∀ x : Word, ofBytesLE (bytesLE 8 x.toNat) = x.toNat :=
    fun x => ofBytesLE_bytesLE_of_lt x.isLt
  rw [FrRawElement.bytes, ofBytesLE_append, ofBytesLE_append, ofBytesLE_append, hlimb, hlimb, hlimb,
    hlimb, FrRawElement.toNat]
  simp only [List.length_append, length_bytesLE]
  omega

/-! ## The file -/

section File

variable {signalValues : ℕ → FrElement} {v : ℕ → Fr} (witness2SignalList : ℕ → ℕ) (Nwtns : ℕ)

/-- The blocks of the second section. -/
def witnessBlocks (signalValues : ℕ → FrElement) : List (List UInt8) :=
  (List.range Nwtns).map fun i =>
    let v := getWitness signalValues witness2SignalList i
    (toLongNormal v v).longVal.bytes

/-- The witness has one block for each entry. -/
lemma length_witnessBlocks :
    (witnessBlocks witness2SignalList Nwtns signalValues).length = Nwtns := by
  simp [witnessBlocks]

/-- Each block has 32 bytes. -/
lemma length_of_mem_witnessBlocks :
    ∀ b ∈ witnessBlocks witness2SignalList Nwtns signalValues, b.length = 32 := by
  intro b hb
  obtain ⟨i, -, rfl⟩ := List.mem_map.mp hb
  exact FrRawElement.length_bytes _

/-- The bytes of the witness. -/
theorem length_flatten_witnessBlocks :
    (witnessBlocks witness2SignalList Nwtns signalValues).flatten.length = 32 * Nwtns := by
  have hmap : (witnessBlocks witness2SignalList Nwtns signalValues).map List.length =
      List.replicate (witnessBlocks witness2SignalList Nwtns signalValues).length 32 :=
    List.map_eq_replicate_iff.mpr (length_of_mem_witnessBlocks witness2SignalList Nwtns)
  rw [List.length_flatten, hmap, List.sum_replicate_nat, length_witnessBlocks, Nat.mul_comm]

/-- The file has two sections.

**Proof sketch.** The loop over the witness appends one block at a time; the rest is a comparison
of the bytes. -/
theorem writeBinWitness_eq_encode :
    writeBinWitness signalValues witness2SignalList Nwtns =
      BinFile.encode "wtns" 2 (Snarkjs.Wtns.sections 32 q.bytes
        (witnessBlocks witness2SignalList Nwtns signalValues)) := by
  have hloop : ∀ (l : List ℕ) (file : List UInt8),
      l.foldl (fun write_ptr i => write_ptr ++
        (toLongNormal (getWitness signalValues witness2SignalList i)
          (getWitness signalValues witness2SignalList i)).longVal.bytes) file =
      file ++ (l.map fun i => (toLongNormal (getWitness signalValues witness2SignalList i)
          (getWitness signalValues witness2SignalList i)).longVal.bytes).flatten := by
    intro l
    induction l with
    | nil => simp
    | cons i l ih =>
      intro file
      rw [List.foldl_cons, ih, List.map_cons, List.flatten_cons, List.append_assoc]
  have hchars : BinFile.charCodes "wtns" = [0x77, 0x74, 0x6e, 0x73] := by decide
  simp only [writeBinWitness]
  rw [hloop]
  simp only [BinFile.encode, Snarkjs.Wtns.sections, BinFile.encodeSection, List.flatMap_cons,
    List.flatMap_nil, List.append_nil, hchars, length_flatten_witnessBlocks, length_witnessBlocks,
    List.length_append, length_bytesLE, FrRawElement.length_bytes, List.length_cons,
    List.length_nil, N64, List.append_assoc]
  rfl

variable {witness2SignalList Nwtns}

/-- **snarkjs reads what the calculator writes.**  From records that stand for the signals, in any
forms, the file has their representatives in the order of the witness. -/
theorem read_writeBinWitness (hv : ∀ a, (signalValues a).Represents (v a)) (hn : Nwtns < 2 ^ 31)
    (storage : BinFile.Storage) (name fileName : String) :
    Snarkjs.Wtns.read fileName
        (.opened storage name (writeBinWitness signalValues witness2SignalList Nwtns)) =
      .ok ((List.range Nwtns).map fun i => (v (witness2SignalList i)).val) := by
  have hlength : (witnessBlocks witness2SignalList Nwtns signalValues).length = Nwtns :=
    length_witnessBlocks witness2SignalList Nwtns
  rw [writeBinWitness_eq_encode, Snarkjs.Wtns.read_encode (by decide) (by decide) (by decide)
    (FrRawElement.length_bytes q) (by omega)
    (length_of_mem_witnessBlocks witness2SignalList Nwtns)]
  congr 1
  rw [witnessBlocks, List.map_map]
  apply List.map_congr_left
  intro i _
  have hi := hv (witness2SignalList i)
  have hnormal := hi.normal_toLongNormal (signalValues (witness2SignalList i))
  rw [Function.comp_apply, FrRawElement.ofBytesLE_bytes, getWitness, hnormal.toNat_eq]

end File

/-- Three signals in different forms, from the last one to the first. -/
theorem read_writeBinWitness_sample :
    Snarkjs.Wtns.read "witness.wtns"
        (.opened .file "witness.wtns" (writeBinWitness Heap.sample (fun i => 2 - i) 3)) =
      .ok [r - 1, 7, 5] := by
  rw [read_writeBinWitness Heap.sample_represents (by decide)]
  decide

end AuthCpp
