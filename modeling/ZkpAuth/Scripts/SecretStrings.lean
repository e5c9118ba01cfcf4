import ZkpAuth.Scripts.VerifyHashes

/-!
# Which secrets the hash script separates

`stringToArray` of `scripts/verify_hashes.js` splits a string into its code points and keeps the
first UTF-16 code unit of each.  On the basic plane this is the code point itself; of a
supplementary code point only the leading surrogate is kept, which is common to a block of 1024 code
points.  This file computes exactly which strings get the same list, and so the same stored hash.

## Main definitions

* `Utf16.encode`, `Utf16.IsWellFormed` — the JavaScript strings of Unicode strings.
* `Utf16.Confusable` — equal up to supplementary code points of one block.

## Main results

* `Utf16.isWellFormed_iff` — the well-formed JavaScript strings are the encoded ones.
* `Utf16.stringToArray_encode` — the script keeps the leading unit of every code point.
* `VerifyHashes.secrets_separated_iff` — when two secrets have distinct lists and hashes.
-/

set_option relaxedAutoImplicit false
set_option autoImplicit false

open Bn254

namespace Utf16

/-! ## The encoding of a code point -/

/-- The first code unit of a code point: the code point itself or a leading surrogate. -/
def leadUnit (c : Char) : UInt16 :=
  if c.toNat < 0x10000 then UInt16.ofNat c.toNat
  else UInt16.ofNat (0xD800 + (c.toNat - 0x10000) / 0x400)

/-- The trailing surrogate of a supplementary code point. -/
def trailUnit (c : Char) : UInt16 := UInt16.ofNat (0xDC00 + (c.toNat - 0x10000) % 0x400)

/-- The code units of a code point. -/
def encodeChar (c : Char) : JsString :=
  if c.toNat < 0x10000 then [leadUnit c] else [leadUnit c, trailUnit c]

/-- The JavaScript string of a Unicode string. -/
def encode (s : List Char) : JsString := s.flatMap encodeChar

/-- A code point is not a surrogate, and is below `0x110000`. -/
lemma toNat_range (c : Char) :
    c.toNat < 0xD800 ∨ (0xDFFF < c.toNat ∧ c.toNat < 0x110000) := c.valid

/-- A character of the basic plane is its own unit. -/
lemma leadUnit_toNat_of_lt {c : Char} (hc : c.toNat < 0x10000) :
    (leadUnit c).toNat = c.toNat := by
  rw [leadUnit, if_pos hc, UInt16.toNat_ofNat_of_lt' hc]

/-- The high surrogate of a character above the basic plane. -/
lemma leadUnit_toNat_of_le {c : Char} (hc : 0x10000 ≤ c.toNat) :
    (leadUnit c).toNat = 0xD800 + (c.toNat - 0x10000) / 0x400 := by
  have hrange := toNat_range c
  have hlt : 0xD800 + (c.toNat - 0x10000) / 0x400 < UInt16.size := by
    change _ < 65536
    omega
  rw [leadUnit, if_neg (by omega), UInt16.toNat_ofNat_of_lt' hlt]

/-- The low surrogate of a character. -/
lemma trailUnit_toNat (c : Char) :
    (trailUnit c).toNat = 0xDC00 + (c.toNat - 0x10000) % 0x400 := by
  have hlt : 0xDC00 + (c.toNat - 0x10000) % 0x400 < UInt16.size := by
    change _ < 65536
    omega
  exact UInt16.toNat_ofNat_of_lt' hlt

/-- The leading unit of a code point of the basic plane is not a leading surrogate. -/
lemma not_isHighSurrogate_leadUnit {c : Char} (hc : c.toNat < 0x10000) :
    ¬isHighSurrogate (leadUnit c) := by
  have hrange := toNat_range c
  rw [isHighSurrogate, leadUnit_toNat_of_lt hc]
  omega

/-- Nor is it a trailing one. -/
lemma not_isLowSurrogate_leadUnit {c : Char} (hc : c.toNat < 0x10000) :
    ¬isLowSurrogate (leadUnit c) := by
  have hrange := toNat_range c
  rw [isLowSurrogate, leadUnit_toNat_of_lt hc]
  omega

/-- A supplementary code point starts with a leading surrogate. -/
lemma isHighSurrogate_leadUnit {c : Char} (hc : 0x10000 ≤ c.toNat) :
    isHighSurrogate (leadUnit c) := by
  have hrange := toNat_range c
  rw [isHighSurrogate, leadUnit_toNat_of_le hc]
  omega

/-- A supplementary code point ends with a trailing surrogate. -/
lemma isLowSurrogate_trailUnit (c : Char) : isLowSurrogate (trailUnit c) := by
  rw [isLowSurrogate, trailUnit_toNat]
  omega

/-! ## What the script keeps of a string -/

/-- A code unit that starts no pair is an element of its own. -/
lemma stringToArray_cons {u : UInt16} (hu : ¬isHighSurrogate u) (str : JsString) :
    stringToArray (u :: str) = u :: stringToArray str := by
  cases str with
  | nil => rfl
  | cons v str =>
    rw [stringToArray, arrayFrom, if_neg fun hpair => hu hpair.1]
    rfl

/-- Of a surrogate pair the leading one is kept. -/
lemma stringToArray_pair {u v : UInt16} (hu : isHighSurrogate u) (hv : isLowSurrogate v)
    (str : JsString) : stringToArray (u :: v :: str) = u :: stringToArray str := by
  rw [stringToArray, arrayFrom, if_pos ⟨hu, hv⟩]
  rfl

/-- **The script keeps the leading unit of every code point.** -/
theorem stringToArray_encode (s : List Char) : stringToArray (encode s) = s.map leadUnit := by
  induction s with
  | nil => rfl
  | cons c s ih =>
    rw [encode, List.flatMap_cons, ← encode, List.map_cons, ← ih, encodeChar]
    split
    case isTrue hc => exact stringToArray_cons (not_isHighSurrogate_leadUnit hc) _
    case isFalse hc =>
      exact stringToArray_pair (isHighSurrogate_leadUnit (by omega)) (isLowSurrogate_trailUnit c) _

/-! ## Code points with the same leading unit -/

/-- Two supplementary code points of one block of 1024. -/
def SameBlock (c d : Char) : Prop :=
  0x10000 ≤ c.toNat ∧ 0x10000 ≤ d.toNat ∧ c.toNat / 0x400 = d.toNat / 0x400

/-- **What the leading unit forgets**: the place of a supplementary code point in its block. -/
theorem leadUnit_eq_iff (c d : Char) : leadUnit c = leadUnit d ↔ c = d ∨ SameBlock c d := by
  have hc := toNat_range c
  have hd := toNat_range d
  rw [← UInt16.toNat_inj, ← Char.toNat_inj, SameBlock]
  rcases Nat.lt_or_ge c.toNat 0x10000 with hcb | hcb <;>
    rcases Nat.lt_or_ge d.toNat 0x10000 with hdb | hdb
  · rw [leadUnit_toNat_of_lt hcb, leadUnit_toNat_of_lt hdb]
    omega
  · rw [leadUnit_toNat_of_lt hcb, leadUnit_toNat_of_le hdb]
    omega
  · rw [leadUnit_toNat_of_le hcb, leadUnit_toNat_of_lt hdb]
    omega
  · rw [leadUnit_toNat_of_le hcb, leadUnit_toNat_of_le hdb]
    omega

/-- Two strings of the same length that have, at every position, the same code point or two
supplementary code points of one block. -/
def Confusable (s t : String) : Prop :=
  List.Forall₂ (fun c d => c = d ∨ SameBlock c d) s.toList t.toList

/-- The script gives two strings the same list exactly when they are confusable. -/
lemma stringToArray_eq_iff (s t : String) :
    stringToArray (encode s.toList) = stringToArray (encode t.toList) ↔ Confusable s t := by
  rw [stringToArray_encode, stringToArray_encode, ← List.forall₂_eq_eq_eq,
    List.forall₂_map_left_iff, List.forall₂_map_right_iff, Confusable]
  simp only [leadUnit_eq_iff]

/-- On the basic plane the script confuses no two strings. -/
theorem Confusable.eq {s t : String} (h : Confusable s t)
    (hs : ∀ c ∈ s.toList, c.toNat < 0x10000) : s = t := by
  rw [← String.toList_inj, ← List.forall₂_eq_eq_eq]
  rw [Confusable, List.forall₂_iff_zip] at h
  refine List.forall₂_iff_zip.mpr ⟨h.1, fun hmem => ?_⟩
  have hbasic := hs _ (List.of_mem_zip hmem).1
  exact (h.2 hmem).resolve_right fun hblock => absurd hblock.1 (by omega)

/-! ## Well-formed JavaScript strings -/

/-- `str.isWellFormed()`: every surrogate belongs to a pair. -/
def IsWellFormed : JsString → Prop
  | [] => True
  | [u] => ¬isHighSurrogate u ∧ ¬isLowSurrogate u
  | u :: v :: str =>
    if isHighSurrogate u ∧ isLowSurrogate v then IsWellFormed str
    else (¬isHighSurrogate u ∧ ¬isLowSurrogate u) ∧ IsWellFormed (v :: str)

/-- A unit that is no surrogate may stand in front of a string. -/
lemma isWellFormed_cons {u : UInt16} (hhigh : ¬isHighSurrogate u) (hlow : ¬isLowSurrogate u)
    {str : JsString} (h : IsWellFormed str) : IsWellFormed (u :: str) := by
  cases str with
  | nil => exact ⟨hhigh, hlow⟩
  | cons v str =>
    rw [IsWellFormed, if_neg fun hpair => hhigh hpair.1]
    exact ⟨⟨hhigh, hlow⟩, h⟩

/-- A code unit that is no surrogate encodes a code point. -/
lemma exists_encodeChar_eq_unit {u : UInt16} (hhigh : ¬isHighSurrogate u)
    (hlow : ¬isLowSurrogate u) : ∃ c, encodeChar c = [u] := by
  have hu := u.toNat_lt
  rw [isHighSurrogate] at hhigh
  rw [isLowSurrogate] at hlow
  refine ⟨Char.ofNatAux u.toNat (by omega), ?_⟩
  have hval : (Char.ofNatAux u.toNat (by omega)).toNat = u.toNat := rfl
  rw [encodeChar, if_pos (by omega), leadUnit, if_pos (by omega), hval, UInt16.ofNat_toNat]

/-- A surrogate pair encodes a code point. -/
lemma exists_encodeChar_eq_pair {u v : UInt16} (hu : isHighSurrogate u)
    (hv : isLowSurrogate v) : ∃ c, encodeChar c = [u, v] := by
  obtain ⟨hu₁, hu₂⟩ := hu
  obtain ⟨hv₁, hv₂⟩ := hv
  have hvalid : (0x10000 + (u.toNat - 0xD800) * 0x400 + (v.toNat - 0xDC00)).isValidChar :=
    Or.inr ⟨by omega, by omega⟩
  refine ⟨Char.ofNatAux _ hvalid, ?_⟩
  have hval : (Char.ofNatAux _ hvalid).toNat =
    0x10000 + (u.toNat - 0xD800) * 0x400 + (v.toNat - 0xDC00) := rfl
  have hlead : leadUnit (Char.ofNatAux _ hvalid) = u := by
    rw [← UInt16.toNat_inj, leadUnit_toNat_of_le (by omega), hval]
    omega
  have htrail : trailUnit (Char.ofNatAux _ hvalid) = v := by
    rw [← UInt16.toNat_inj, trailUnit_toNat, hval]
    omega
  rw [encodeChar, if_neg (by omega), hlead, htrail]

/-- **The well-formed JavaScript strings are those of the Unicode strings.**

**Proof sketch.** Forwards by the recursion of the predicate, each unit or pair of units being the
code of one character; backwards by induction on the characters. -/
theorem isWellFormed_iff (str : JsString) : IsWellFormed str ↔ ∃ s, encode s = str := by
  constructor
  · intro h
    fun_induction IsWellFormed str with
    | case1 => exact ⟨[], rfl⟩
    | case2 u =>
      obtain ⟨c, hc⟩ := exists_encodeChar_eq_unit h.1 h.2
      exact ⟨[c], by rw [encode, List.flatMap_singleton, hc]⟩
    | case3 u v str hpair ih =>
      obtain ⟨c, hc⟩ := exists_encodeChar_eq_pair hpair.1 hpair.2
      obtain ⟨s, rfl⟩ := ih h
      exact ⟨c :: s, by rw [encode, List.flatMap_cons, hc]; rfl⟩
    | case4 u v str hpair ih =>
      obtain ⟨c, hc⟩ := exists_encodeChar_eq_unit h.1.1 h.1.2
      obtain ⟨s, hs⟩ := ih h.2
      exact ⟨c :: s, by rw [encode, List.flatMap_cons, hc, ← encode, hs]; rfl⟩
  · rintro ⟨s, rfl⟩
    induction s with
    | nil => trivial
    | cons c s ih =>
      rw [encode, List.flatMap_cons, ← encode, encodeChar]
      split
      case isTrue hc =>
        exact isWellFormed_cons (not_isHighSurrogate_leadUnit hc)
          (not_isLowSurrogate_leadUnit hc) ih
      case isFalse hc =>
        change IsWellFormed (leadUnit c :: trailUnit c :: encode s)
        rw [IsWellFormed, if_pos ⟨isHighSurrogate_leadUnit (by omega), isLowSurrogate_trailUnit c⟩]
        exact ih

end Utf16

/-! ## The hashes of two secrets -/

namespace VerifyHashes

open Utf16

/-- The list that the script hashes for a secret. -/
def secretCodes (s : String) : List Fr :=
  (stringToArray (encode s.toList)).map fun u => (u.toNat : Fr)

/-- Code units are distinct elements of the field. -/
lemma codeUnit_injective : Function.Injective fun u : UInt16 => (u.toNat : Fr) := by
  intro u v heq
  have hr : 2 ^ 16 < r := two_pow_253_le_r.trans_lt' (by norm_num)
  have hu := u.toNat_lt
  have hv := v.toNat_lt
  have hval := congrArg ZMod.val heq
  simp only at hval
  rw [ZMod.val_cast_of_lt (by omega), ZMod.val_cast_of_lt (by omega)] at hval
  exact UInt16.toNat_inj.mp hval

/-- Two secrets have the same list of field elements exactly when they are confusable. -/
lemma secretCodes_eq_iff (s t : String) : secretCodes s = secretCodes t ↔ Confusable s t := by
  rw [secretCodes, secretCodes, codeUnit_injective.list_map.eq_iff, stringToArray_eq_iff]

/-- The script computes a hash of every secret of 1 to 16 code points. -/
lemma secretHash_encode (out : List Fr → Fr) {s : String} (hs : 1 ≤ s.length ∧ s.length ≤ 16) :
    secretHash out (encode s.toList) = .ok (out (secretCodes s)) := by
  have hlength : (stringToArray (encode s.toList)).length = s.length := by
    rw [stringToArray_encode, List.length_map, String.length_toList]
  rw [secretHash, poseidon, List.length_map, if_neg (by omega), List.map_map]
  rfl

/-- **When two secrets are separated.** Of two secrets of 1 to 16 code points, the script hashes
distinct lists, and computes distinct hashes with every permutation that is injective on these
lists, exactly when they are not confusable. -/
theorem secrets_separated_iff {s t : String} (hs : 1 ≤ s.length ∧ s.length ≤ 16)
    (ht : 1 ≤ t.length ∧ t.length ≤ 16) :
    (stringToArray (encode s.toList) ≠ stringToArray (encode t.toList) ∧
      ∀ out : List Fr → Fr, Set.InjOn out {secretCodes s, secretCodes t} →
        secretHash out (encode s.toList) ≠ secretHash out (encode t.toList)) ↔
      ¬Confusable s t := by
  constructor
  · rintro ⟨hlists, -⟩ hconf
    exact hlists ((stringToArray_eq_iff s t).mpr hconf)
  · intro hconf
    refine ⟨fun hlists => hconf ((stringToArray_eq_iff s t).mp hlists), fun out hout heq => ?_⟩
    rw [secretHash_encode out hs, secretHash_encode out ht] at heq
    exact hconf ((secretCodes_eq_iff s t).mp (hout (.inl rfl) (.inr rfl) (Except.ok.inj heq)))

/-- The secrets `"1"` and `"2"` have distinct hashes, when the permutation is that of one input. -/
theorem secrets_separated_digits :
    secretHash headHash (encode "1".toList) ≠ secretHash headHash (encode "2".toList) := by
  have hne : Poseidon.H 49 ≠ Poseidon.H 50 := by decide +kernel
  have hinj : Set.InjOn headHash {secretCodes "1", secretCodes "2"} := by
    rw [Set.injOn_pair]
    exact fun heq => absurd heq hne
  have hbasic : ∀ c ∈ "1".toList, c.toNat < 0x10000 :=
    List.forall_mem_singleton.mpr (by decide)
  have hconf : ¬Confusable "1" "2" := fun h => absurd (h.eq hbasic) (by decide)
  exact ((secrets_separated_iff (by decide) (by decide)).mpr hconf).2 headHash hinj

/-- The secrets of the one code point `U+1F600` and of the one code point `U+1F601` are distinct,
but the script hashes the leading surrogate of both. -/
theorem emoji_not_separated :
    ¬∀ s t : String, s ≠ t → 1 ≤ s.length ∧ s.length ≤ 16 → 1 ≤ t.length ∧ t.length ≤ 16 →
      stringToArray (encode s.toList) ≠ stringToArray (encode t.toList) := by
  intro hall
  refine hall "😀" "😁" (by decide) (by decide) (by decide) ?_
  rw [stringToArray_encode, stringToArray_encode]
  decide

end VerifyHashes
