import ZkpAuth.Iden3.BinFile

/-!
# Reading witness files in snarkjs

`snarkjs/src/wtns_utils.js`: a witness file has a section with the size of an element, the modulus
and the number of elements, and one with the elements.

## Main definitions

* `Snarkjs.Wtns.sections` — the two sections of a witness file.
* `Snarkjs.Wtns.readHeader`, `Snarkjs.Wtns.read` — the functions.

## Main results

* `Snarkjs.Wtns.read_encode` — reading gives the elements that were written.
-/

set_option relaxedAutoImplicit false
set_option autoImplicit false

open Bytes BinFile

namespace Snarkjs.Wtns

/-! ## Reading -/

/-- What `readHeader` returns. -/
structure Header where
  n8 : ℕ
  q : ℕ
  nWitness : ℕ

/-- `readHeader`. -/
def readHeader (fd : Fd) (sections : ℕ → List Section) : Except String (Header × Fd) := do
  let fd ← startReadUniqueSection fd sections 1
  let (n8, fd) ← fd.readULE32
  let (q, fd) ← readBigInt fd n8
  let (nWitness, fd) ← fd.readULE32
  let fd ← endReadSection fd
  return (⟨n8, q, nWitness⟩, fd)

/-- The loop of `read` over the elements. -/
def readElements (n8 : ℕ) : ℕ → Fd → Except String (List ℕ × Fd)
  | 0, fd => .ok ([], fd)
  | nWitness + 1, fd => do
    let (v, fd) ← readBigInt fd n8
    let (res, fd) ← readElements n8 nWitness fd
    return (v :: res, fd)

/-- `read`, on the file that `readBinFile` opens. -/
def read (fileName : String) (fd : Fd) : Except String (List ℕ) := do
  let (fd, sections) ← readBinFile fileName fd "wtns" 2
  let (header, fd) ← readHeader fd sections
  let fd ← startReadUniqueSection fd sections 2
  let (res, fd) ← readElements header.n8 header.nWitness fd
  let _ ← endReadSection fd
  return res

/-! ## The format -/

/-- The two sections of a witness file, with the bytes of the modulus and of the elements. -/
def sections (n8 : ℕ) (q : List UInt8) (witness : List (List UInt8)) : List (ℕ × List UInt8) :=
  [(1, bytesLE 4 n8 ++ q ++ bytesLE 4 witness.length), (2, witness.flatten)]

/-! ## Sections -/

/-- The file at the start of a section. -/
def enter (fd : Fd) (s : Section) : Fd := { fd with pos := s.p, readingSection := some s }

section Read

variable {fd : Fd} {table : ℕ → List Section} {id : ℕ} {payload b rest : List UInt8}

/-- A section that occurs once is entered, and its payload is what comes next. -/
lemma startReadUniqueSection_eq (hfree : fd.readingSection = none)
    (h : List.Forall₂ (Section.Holds fd.data) (table id) [payload]) :
    ∃ s rest, startReadUniqueSection fd table id = .ok (enter fd s) ∧ s.size = payload.length ∧
      (enter fd s).Rest (payload ++ rest) := by
  obtain ⟨s, l, hs, hl, htable⟩ := List.forall₂_cons_right_iff.mp h
  obtain rfl := List.forall₂_nil_right_iff.mp hl
  obtain ⟨rest, hrest⟩ := hs.prefix_drop
  refine ⟨s, rest, ?_, hs.size_eq, ⟨hs.p_le, hrest.symm⟩⟩
  rw [startReadUniqueSection, hfree, htable]
  rfl

/-- A section that has been read to its end is left. -/
lemma endReadSection_eq {s : Section} {len : ℕ} (hlen : s.size = len) :
    endReadSection ((enter fd s).skip len) =
      .ok { (enter fd s).skip len with readingSection := none } := by
  have hsize : ((enter fd s).skip len).pos - s.p = s.size := by
    rw [hlen, Fd.skip_pos]
    exact Nat.add_sub_cancel_left _ _
  have hreading : ((enter fd s).skip len).readingSection = some s := rfl
  simp only [endReadSection, hreading, hsize]
  rw [if_neg (not_not_intro rfl)]
  rfl

/-- The bytes of an element are read as its number. -/
lemma readBigInt_eq (h4 : b.length % 4 = 0) (hpos : 0 < b.length) (h : fd.Rest (b ++ rest)) :
    readBigInt fd b.length = .ok (ofBytesLE b, fd.skip b.length) := by
  have hvalue : fromRprLE b = .ok (ofBytesLE b) := by
    rw [fromRprLE, if_neg (not_not_intro h4), if_neg hpos.ne']
    rfl
  rw [readBigInt, bind_eq_of_eq_ok h.read_eq]
  dsimp only
  rw [bind_eq_of_eq_ok hvalue]
  rfl

/-- The loop reads the elements one after the other. -/
lemma readElements_eq {n8 : ℕ} (h4 : n8 % 4 = 0) (hpos : 0 < n8) {witness : List (List UInt8)}
    (hlen : ∀ b ∈ witness, b.length = n8) (h : fd.Rest (witness.flatten ++ rest)) :
    readElements n8 witness.length fd =
      .ok (witness.map ofBytesLE, fd.skip witness.flatten.length) := by
  induction witness generalizing fd with
  | nil => rfl
  | cons b witness ih =>
    have hb : b.length = n8 := hlen b List.mem_cons_self
    rw [List.flatten_cons, List.append_assoc] at h
    have hread := readBigInt_eq (by rwa [hb]) (by rwa [hb]) h
    have hrest := ih (fun c hc => hlen c (List.mem_cons_of_mem b hc)) h.skip
    rw [hb] at hread hrest
    rw [List.length_cons, readElements, bind_eq_of_eq_ok hread]
    dsimp only
    rw [bind_eq_of_eq_ok hrest, List.flatten_cons, List.length_append, hb, Fd.skip_skip]
    rfl

/-- The header of a file that holds it is read.

**Proof sketch.** The three numbers are read one after the other, and the pointer ends behind the
section. -/
lemma readHeader_eq {n8 n : ℕ} {q : List UInt8} (h4 : n8 % 4 = 0) (hpos : 0 < n8)
    (hn8 : n8 < 2 ^ 32) (hq : q.length = n8) (hn : n < 2 ^ 32) (hfree : fd.readingSection = none)
    (h : List.Forall₂ (Section.Holds fd.data) (table 1) [bytesLE 4 n8 ++ q ++ bytesLE 4 n]) :
    ∃ fd', readHeader fd table = .ok (⟨n8, ofBytesLE q, n⟩, fd') ∧ fd'.data = fd.data ∧
      fd'.readingSection = none := by
  obtain ⟨s, rest, hstart, hsize, h₁⟩ := startReadUniqueSection_eq hfree h
  rw [List.append_assoc, List.append_assoc] at h₁
  have hread₁ := h₁.readULE32_eq hn8
  have h₂ := h₁.skip
  rw [length_bytesLE] at h₂
  have hread₂ := readBigInt_eq (by rwa [hq]) (by rwa [hq]) h₂
  have h₃ := h₂.skip
  rw [hq] at hread₂ h₃
  have hread₃ := h₃.readULE32_eq hn
  have hlen : s.size = 4 + (n8 + 4) := by
    rw [hsize, List.length_append, List.length_append, length_bytesLE, length_bytesLE, hq,
      Nat.add_assoc]
  have hend : endReadSection ((enter fd s).skip (4 + (n8 + 4))) = _ := endReadSection_eq hlen
  refine ⟨{ (enter fd s).skip (4 + (n8 + 4)) with readingSection := none }, ?_, rfl, rfl⟩
  rw [readHeader, bind_eq_of_eq_ok hstart, bind_eq_of_eq_ok hread₁]
  dsimp only
  rw [bind_eq_of_eq_ok hread₂]
  dsimp only
  rw [bind_eq_of_eq_ok hread₃]
  dsimp only
  rw [Fd.skip_skip, Fd.skip_skip, bind_eq_of_eq_ok hend]
  rfl

end Read

/-- **Reading undoes writing.**  From a file with the two sections, in memory or on a disk, `read`
returns the numbers of the elements.

**Proof sketch.** The table has one section of each number.  The header gives the size and the
number of the elements, and the second section is read in pieces of that size. -/
theorem read_encode {n8 : ℕ} {q : List UInt8} {witness : List (List UInt8)} (h4 : n8 % 4 = 0)
    (hpos : 0 < n8) (hn8 : n8 < 2 ^ 32) (hq : q.length = n8) (hn : witness.length < 2 ^ 32)
    (hlen : ∀ b ∈ witness, b.length = n8) (storage : Storage) (name fileName : String) :
    read fileName (.opened storage name (encode "wtns" 2 (sections n8 q witness))) =
      .ok (witness.map ofBytesLE) := by
  have hmap : witness.map List.length = List.replicate witness.length n8 :=
    List.map_eq_replicate_iff.mpr hlen
  have hflatten : witness.flatten.length = witness.length * n8 := by
    rw [List.length_flatten, hmap, List.sum_replicate_nat]
  have hsize : witness.length * n8 < 2 ^ 32 * 2 ^ 32 := Nat.mul_lt_mul'' hn hn8
  have hfits : Fits (sections n8 q witness) := by
    constructor
    · exact (by decide : 2 < 2 ^ 32)
    · intro s hs
      simp only [sections, List.mem_cons, List.not_mem_nil, or_false] at hs
      rcases hs with rfl | rfl
      · exact (by decide : 1 < 2 ^ 32)
      · exact (by decide : 2 < 2 ^ 32)
    · intro s hs
      simp only [sections, List.mem_cons, List.not_mem_nil, or_false] at hs
      rcases hs with rfl | rfl
      · simp only [List.length_append, length_bytesLE, hq]
        omega
      · rw [hflatten]
        omega
  obtain ⟨fd, table, hread, -, hfree, htable⟩ := readBinFile_encode hfits
    (show fromCharCodes (charCodes "wtns") = "wtns" by decide) (show 2 < 2 ^ 32 by decide) le_rfl
    storage name fileName
  have hone := htable 1
  have htwo := htable 2
  have hpayload₁ : payloads 1 (sections n8 q witness) =
      [bytesLE 4 n8 ++ q ++ bytesLE 4 witness.length] := rfl
  have hpayload₂ : payloads 2 (sections n8 q witness) = [witness.flatten] := rfl
  rw [hpayload₁] at hone
  rw [hpayload₂] at htwo
  obtain ⟨fd', hheader, hdata, hfree'⟩ := readHeader_eq h4 hpos hn8 hq hn hfree hone
  rw [← hdata] at htwo
  obtain ⟨s, rest, hstart, hsize, hrest⟩ := startReadUniqueSection_eq hfree' htwo
  have helements := readElements_eq h4 hpos hlen hrest
  have hend : endReadSection ((enter fd' s).skip witness.flatten.length) = _ :=
    endReadSection_eq hsize
  rw [read, bind_eq_of_eq_ok hread]
  dsimp only
  rw [bind_eq_of_eq_ok hheader]
  dsimp only
  rw [bind_eq_of_eq_ok hstart, bind_eq_of_eq_ok helements]
  dsimp only
  rw [bind_eq_of_eq_ok hend]
  rfl

end Snarkjs.Wtns
