import ZkpAuth.Lib.Bytes
import ZkpAuth.Lib.Loop
import Mathlib.Logic.Function.Basic
import Mathlib.Data.List.Forall2

/-!
# Reading binary files in sections

`@iden3/binfileutils`, on top of the files of `fastfile`: a type of four characters, a version, and
sections, each behind its number and its length.  The reader scans the sections first and can then
read any of them.

A file in memory refuses to be read beyond its end.  From a file on disk such a read yields what is
left of the file, behind as many zeros as are missing.  Lengths are exact in the model, as they are
in the code below `2 ^ 53`.

## Main definitions

* `BinFile.Fd` — a file that is open for reading, with `BinFile.readBinFile`,
  `BinFile.startReadUniqueSection`, `BinFile.endReadSection` and `BinFile.readBigInt`.
* `BinFile.encode` — the file of a list of sections.

## Main results

* `BinFile.readBinFile_encode` — the reader finds the sections of a file.
-/

set_option relaxedAutoImplicit false
set_option autoImplicit false

open Bytes

namespace BinFile

/-! ## Reading -/

/-- `memfile.js` and `osfile.js`. -/
inductive Storage where
  | mem
  | file
  deriving DecidableEq

/-- An entry of `sections`: the position of a section and its size. -/
structure Section where
  p : ℕ
  size : ℕ
  deriving DecidableEq

/-- A file that is open for reading. -/
structure Fd where
  /-- Where the file is. -/
  storage : Storage
  /-- The name, for messages. -/
  fileName : String
  /-- The bytes of the file. -/
  data : List UInt8
  /-- The position of the next byte. -/
  pos : ℕ
  /-- The section that is being read. -/
  readingSection : Option Section

/-- `fd.read(len)`.  On a disk `readToBuffer` copies what is left of the file to the end of the
buffer. -/
def Fd.read (fd : Fd) (len : ℕ) : Except String (List UInt8 × Fd) :=
  let buff := (fd.data.drop fd.pos).take len
  match fd.storage with
  | .mem =>
    if fd.data.length < fd.pos + len then .error "Reading out of bounds"
    else .ok (buff, { fd with pos := fd.pos + len })
  | .file => .ok (List.replicate (len - buff.length) 0 ++ buff, { fd with pos := fd.pos + len })

/-- `fd.readULE32()`. -/
def Fd.readULE32 (fd : Fd) : Except String (ℕ × Fd) := do
  let (b, fd) ← fd.read 4
  return (ofBytesLE b, fd)

/-- `fd.readULE64()`. -/
def Fd.readULE64 (fd : Fd) : Except String (ℕ × Fd) := do
  let (b, fd) ← fd.read 8
  return (ofBytesLE b, fd)

/-- The loop "Scan sections" of `readBinFile`. -/
def scanSections : ℕ → Fd → (ℕ → List Section) → Except String (Fd × (ℕ → List Section))
  | 0, fd, sections => .ok (fd, sections)
  | nSections + 1, fd, sections => do
    let (ht, fd) ← fd.readULE32
    let (hl, fd) ← fd.readULE64
    scanSections nSections { fd with pos := fd.pos + hl }
      (Function.update sections ht (sections ht ++ [⟨fd.pos, hl⟩]))

/-- `String.fromCharCode` of each byte. -/
def fromCharCodes (b : List UInt8) : String := String.ofList (b.map fun c => Char.ofNat c.toNat)

/-- `readBinFile`, on the file that it has opened. -/
def readBinFile (fileName : String) (fd : Fd) (type : String) (maxVersion : ℕ) :
    Except String (Fd × (ℕ → List Section)) := do
  let (b, fd) ← fd.read 4
  if fromCharCodes b ≠ type then throw (fileName ++ ": Invalid File format")
  let (v, fd) ← fd.readULE32
  if maxVersion < v then throw "Version not supported"
  let (nSections, fd) ← fd.readULE32
  scanSections nSections fd fun _ => []

/-- `startReadUniqueSection`. -/
def startReadUniqueSection (fd : Fd) (sections : ℕ → List Section) (idSection : ℕ) :
    Except String Fd :=
  if fd.readingSection.isSome then throw "Already reading a section"
  else match sections idSection with
    | [] => throw (fd.fileName ++ ": Missing section " ++ toString idSection)
    | [s] => return { fd with pos := s.p, readingSection := some s }
    | _ => throw (fd.fileName ++ ": Section Duplicated " ++ toString idSection)

/-- `endReadSection`, with its check. -/
def endReadSection (fd : Fd) : Except String Fd :=
  match fd.readingSection with
  | none => throw "Not reading a section"
  | some s =>
    if fd.pos - s.p ≠ s.size then throw "Invalid section size reading"
    else return { fd with readingSection := none }

/-- `Scalar.fromRprLE` of a buffer: its words make an array of `n8/4` entries and then a
hexadecimal number. -/
def fromRprLE (buff : List UInt8) : Except String ℕ :=
  if buff.length % 4 ≠ 0 then throw "Invalid array length"
  else if buff.length = 0 then throw "Cannot convert 0x to a BigInt"
  else return ofBytesLE buff

/-- `readBigInt`. -/
def readBigInt (fd : Fd) (n8 : ℕ) : Except String (ℕ × Fd) := do
  let (buff, fd) ← fd.read n8
  let v ← fromRprLE buff
  return (v, fd)

/-! ## The format -/

/-- The bytes of a section: its number, its length and its payload. -/
def encodeSection (s : ℕ × List UInt8) : List UInt8 :=
  bytesLE 4 s.1 ++ bytesLE 8 s.2.length ++ s.2

/-- The bytes of the type of a file. -/
def charCodes (type : String) : List UInt8 :=
  (List.range 4).map fun i => UInt8.ofNat ((type.toList.map Char.toNat).getD i 0)

/-- The file of a list of sections. -/
def encode (type : String) (version : ℕ) (sections : List (ℕ × List UInt8)) : List UInt8 :=
  charCodes type ++ bytesLE 4 version ++ bytesLE 4 sections.length ++
    sections.flatMap encodeSection

/-- Sections whose numbers and lengths have room. -/
structure Fits (sections : List (ℕ × List UInt8)) : Prop where
  count : sections.length < 2 ^ 32
  id : ∀ s ∈ sections, s.1 < 2 ^ 32
  size : ∀ s ∈ sections, s.2.length < 2 ^ 64

/-- The payloads of the sections with a given number. -/
def payloads (id : ℕ) (sections : List (ℕ × List UInt8)) : List (List UInt8) :=
  (sections.filter fun s => s.1 = id).map Prod.snd

/-! ## Reading a file -/

namespace Fd

/-- The file further on. -/
def skip (fd : Fd) (len : ℕ) : Fd := { fd with pos := fd.pos + len }

/-- Skipping keeps the bytes. -/
@[simp] lemma skip_data (fd : Fd) (len : ℕ) : (fd.skip len).data = fd.data := rfl

/-- Skipping moves the position. -/
@[simp] lemma skip_pos (fd : Fd) (len : ℕ) : (fd.skip len).pos = fd.pos + len := rfl

/-- Skipping twice moves the position by the sum. -/
theorem skip_skip (fd : Fd) (k l : ℕ) : (fd.skip k).skip l = fd.skip (k + l) := by
  simp only [skip, Nat.add_assoc]

/-- The bytes that are still to be read. -/
structure Rest (fd : Fd) (rest : List UInt8) : Prop where
  pos_le : fd.pos ≤ fd.data.length
  drop_eq : fd.data.drop fd.pos = rest

variable {fd : Fd} {b rest : List UInt8}

namespace Rest

/-- The position and the rest make the length. -/
theorem length_eq (h : fd.Rest rest) : fd.pos + rest.length = fd.data.length := by
  have hpos := h.pos_le
  rw [← h.drop_eq, List.length_drop]
  omega

/-- Behind the first of two parts there is the second. -/
theorem skip (h : fd.Rest (b ++ rest)) : (fd.skip b.length).Rest rest := by
  have hlen := h.length_eq
  rw [List.length_append] at hlen
  constructor
  · rw [skip_pos, skip_data]
    omega
  · rw [skip_pos, skip_data, ← List.drop_drop, h.drop_eq, List.drop_left]

/-- Bytes that are there are read, from memory and from a disk. -/
theorem read_eq (h : fd.Rest (b ++ rest)) : fd.read b.length = .ok (b, fd.skip b.length) := by
  have hlen := h.length_eq
  rw [List.length_append] at hlen
  have hbuff : (fd.data.drop fd.pos).take b.length = b := by
    rw [h.drop_eq, List.take_left]
  unfold read
  cases hstorage : fd.storage with
  | mem =>
    simp only [hbuff]
    rw [if_neg (by omega), Fd.skip, hstorage]
  | file =>
    simp only [hbuff, Nat.sub_self, List.replicate_zero, List.nil_append]
    rw [Fd.skip, hstorage]

/-- A word of 32 bits that is there is read. -/
theorem readULE32_eq {v : ℕ} (hv : v < 2 ^ 32) (h : fd.Rest (bytesLE 4 v ++ rest)) :
    fd.readULE32 = .ok (v, fd.skip 4) := by
  have hread := h.read_eq
  rw [length_bytesLE] at hread
  rw [readULE32, hread]
  change Except.ok (ofBytesLE (bytesLE 4 v), fd.skip 4) = _
  rw [ofBytesLE_bytesLE_of_lt hv]

/-- A word of 64 bits that is there is read. -/
lemma readULE64_eq {v : ℕ} (hv : v < 2 ^ 64) (h : fd.Rest (bytesLE 8 v ++ rest)) :
    fd.readULE64 = .ok (v, fd.skip 8) := by
  have hread := h.read_eq
  rw [length_bytesLE] at hread
  rw [readULE64, hread]
  change Except.ok (ofBytesLE (bytesLE 8 v), fd.skip 8) = _
  rw [ofBytesLE_bytesLE_of_lt hv]

end Rest

end Fd

/-- The section of a table lies in the data, with a given payload. -/
structure Section.Holds (data : List UInt8) (s : Section) (payload : List UInt8) : Prop where
  size_eq : s.size = payload.length
  p_le : s.p ≤ data.length
  prefix_drop : payload <+: data.drop s.p

/-- The table that the scan makes, from the position `p` on. -/
def positions (id : ℕ) : ℕ → List (ℕ × List UInt8) → List Section
  | _, [] => []
  | p, s :: sections =>
    (if s.1 = id then [⟨p + 12, s.2.length⟩] else []) ++
      positions id (p + (encodeSection s).length) sections

/-- The length of a section with its number and its length. -/
lemma length_encodeSection (s : ℕ × List UInt8) :
    (encodeSection s).length = 12 + s.2.length := by
  rw [encodeSection, List.length_append, List.length_append, length_bytesLE, length_bytesLE]

/-- **The scan finds the sections**, after those of the table that it starts from.

**Proof sketch.** Induction on the sections: number and length are read, and the payload is passed
over. -/
theorem scanSections_eq {sections : List (ℕ × List UInt8)} {fd : Fd} {rest : List UInt8}
    (hid : ∀ s ∈ sections, s.1 < 2 ^ 32) (hsize : ∀ s ∈ sections, s.2.length < 2 ^ 64)
    (h : fd.Rest (sections.flatMap encodeSection ++ rest)) (table : ℕ → List Section) :
    scanSections sections.length fd table =
      .ok (fd.skip (sections.flatMap encodeSection).length,
        fun id => table id ++ positions id fd.pos sections) := by
  induction sections generalizing fd table with
  | nil => simp [scanSections, positions, Fd.skip]
  | cons s sections ih =>
    rw [List.flatMap_cons, encodeSection, List.append_assoc, List.append_assoc,
      List.append_assoc] at h
    have hht := h.readULE32_eq (hid s (by simp))
    have h₁ := h.skip
    rw [length_bytesLE] at h₁
    have hhl := h₁.readULE64_eq (hsize s (by simp))
    have h₂ := h₁.skip.skip
    rw [length_bytesLE, Fd.skip_skip, Fd.skip_skip] at h₂
    have hrest := ih (fun s hs => hid s (by simp [hs])) (fun s hs => hsize s (by simp [hs])) h₂
    rw [List.length_cons, scanSections, hht]
    change ((fd.skip 4).readULE64 >>= _) = _
    rw [hhl]
    change scanSections sections.length (((fd.skip 4).skip 8).skip s.2.length) _ = _
    rw [Fd.skip_skip, Fd.skip_skip, hrest, Fd.skip_skip, List.flatMap_cons, List.length_append,
      length_encodeSection]
    have hlen : 4 + (8 + s.2.length) = 12 + s.2.length := by omega
    rw [hlen]
    congr 2
    funext id
    by_cases hs : s.1 = id
    · subst hs
      simp [positions, length_encodeSection, Nat.add_assoc]
    · simp [positions, length_encodeSection, hs, Function.update_of_ne (Ne.symm hs), Nat.add_assoc]

/-- The sections of the table lie in the file, with their payloads.

**Proof sketch.** Induction on the sections, as in the scan. -/
lemma positions_holds {sections : List (ℕ × List UInt8)} {fd : Fd} {rest : List UInt8}
    (h : fd.Rest (sections.flatMap encodeSection ++ rest)) (id : ℕ) :
    List.Forall₂ (Section.Holds fd.data) (positions id fd.pos sections) (payloads id sections) := by
  induction sections generalizing fd with
  | nil => exact .nil
  | cons s sections ih =>
    rw [List.flatMap_cons, List.append_assoc] at h
    have hrest : List.Forall₂ (Section.Holds fd.data)
        (positions id (fd.pos + (encodeSection s).length) sections) (payloads id sections) :=
      ih h.skip
    by_cases hs : s.1 = id
    · have hpayload : (fd.skip 12).Rest (s.2 ++ (sections.flatMap encodeSection ++ rest)) := by
        rw [encodeSection, List.append_assoc] at h
        simpa using h.skip
      have hhead : Section.Holds fd.data ⟨fd.pos + 12, s.2.length⟩ s.2 :=
        ⟨rfl, hpayload.pos_le, _, hpayload.drop_eq.symm⟩
      have hcons : payloads id (s :: sections) = s.2 :: payloads id sections := by
        simp [payloads, hs]
      rw [positions, if_pos hs, hcons]
      exact .cons hhead hrest
    · have hskip : payloads id (s :: sections) = payloads id sections := by simp [payloads, hs]
      rw [positions, if_neg hs, hskip]
      exact hrest

/-- A file at its start. -/
def Fd.opened (storage : Storage) (fileName : String) (data : List UInt8) : Fd :=
  ⟨storage, fileName, data, 0, none⟩

/-- **Reading a file of sections.**  The table has the sections of each number in their order, if
the version is not above the one that is asked for.

**Proof sketch.** The type, the version and the count are read in turn; then the scan finds the
sections. -/
theorem readBinFile_encode {sections : List (ℕ × List UInt8)} (hfits : Fits sections)
    {type : String} (htype : fromCharCodes (charCodes type) = type) {version maxVersion : ℕ}
    (hversion : version < 2 ^ 32) (hmax : version ≤ maxVersion) (storage : Storage)
    (name fileName : String) :
    ∃ fd table, readBinFile fileName (.opened storage name (encode type version sections)) type
        maxVersion = .ok (fd, table) ∧
      fd.data = encode type version sections ∧ fd.readingSection = none ∧
        ∀ id, List.Forall₂ (Section.Holds fd.data) (table id) (payloads id sections) := by
  set fd := Fd.opened storage name (encode type version sections) with hfd
  have hstart : fd.Rest (charCodes type ++ (bytesLE 4 version ++ (bytesLE 4 sections.length ++
      (sections.flatMap encodeSection ++ [])))) := by
    constructor
    · exact Nat.zero_le _
    · simp [fd, Fd.opened, encode]
  have hlen : (charCodes type).length = 4 := by simp [charCodes]
  have hmagic := hstart.read_eq
  have h₁ := hstart.skip
  have hread := h₁.readULE32_eq hversion
  have h₂ := h₁.skip
  have hcount := h₂.readULE32_eq hfits.count
  have h₃ := h₂.skip
  simp only [length_bytesLE, hlen] at hmagic h₁ hread h₂ hcount h₃
  have hscan := scanSections_eq hfits.id hfits.size h₃ fun _ => []
  have hholds := positions_holds h₃
  refine ⟨(((fd.skip 4).skip 4).skip 4).skip (sections.flatMap encodeSection).length, _, ?_, rfl,
    rfl, fun id => hholds id⟩
  rw [readBinFile, bind_eq_of_eq_ok hmagic]
  dsimp only
  rw [if_neg (not_not_intro htype), bind_eq_of_eq_ok hread]
  dsimp only
  rw [if_neg (not_lt.mpr hmax), bind_eq_of_eq_ok hcount]
  exact hscan

end BinFile
