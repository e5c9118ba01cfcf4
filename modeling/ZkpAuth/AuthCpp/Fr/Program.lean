import ZkpAuth.AuthCpp.Fr.Products
import ZkpAuth.AuthCpp.Fr.Comparison
import ZkpAuth.Lib.Command

/-!
# Programs over the field library

The circuit code of `auth_cpp/auth.cpp` that computes signals calls the functions of
`auth_cpp/fr.asm` on four arrays of records.  Such a program has two meanings.  On the heap of
records each call is the function of the assembly; on a store of field elements each call is an
operation of the field.

The store knows which cells are initialized, and its addition and its subtraction are stuck when the
result overwrites an operand.  The functions of the assembly are not: they compute with whatever
stands in the records.

## Main definitions

* `AuthCpp.Ptr`, `AuthCpp.Index`, `AuthCpp.Address` — the cells of the arrays, and the expressions
  for them.
* `AuthCpp.Operation`, `AuthCpp.Instruction` — the calls.
* `AuthCpp.heapMachine`, `AuthCpp.storeMachine` — the two meanings.
* `AuthCpp.Store.Refines` — the records behind the initialized cells stand for their values.

## Main results

* `AuthCpp.storeMachine_simulates` — a call keeps this relation.
* `AuthCpp.run_refines` — a program computes on the heap what it computes on the store.
-/

set_option relaxedAutoImplicit false
set_option autoImplicit false

open Bn254

namespace AuthCpp

/-! ## Programs -/

/-- The arrays of the circuit code: the first two belong to `Circom_CalcWit`, and the other two are
local. -/
inductive Base where
  | circuitConstants
  | signalValues
  | lvar
  | expaux
  deriving DecidableEq

/-- A cell of an array. -/
@[ext]
structure Ptr where
  base : Base
  index : ℕ
  deriving DecidableEq

/-- Index expressions, which the code evaluates in the type `int`. -/
inductive Index where
  | lit (n : ℕ)
  /-- `Fr_toInt(&p)`. -/
  | toInt (p : Ptr)
  | add (a b : Index)
  | mul (a b : Index)

/-- Numerals are literals. -/
instance (n : ℕ) : OfNat Index n := ⟨.lit n⟩

/-- Sums of indices. -/
instance : Add Index := ⟨.add⟩

/-- Products of indices. -/
instance : Mul Index := ⟨.mul⟩

/-- The address `&base[start + index]`. -/
structure Address where
  base : Base
  /-- `mySignalStart` in the array of the signals, and `0` in the others. -/
  start : ℕ
  index : Index

/-- The functions of two operands that the circuit code calls. -/
inductive Operation where
  | add
  | sub
  | mul
  | lt
  | gt
  | eq

/-- A call. -/
inductive Instruction where
  /-- `Fr_copy(dst, src)`. -/
  | copy (dst src : Address)
  /-- `Fr_add(dst, a, b)` and the like. -/
  | call (op : Operation) (dst a b : Address)

/-- A program; the tests are calls of `Fr_isTrue`. -/
abbrev Program := Command Instruction Address

/-! ## Addresses -/

/-- A number of the type `int`.  An overflow is undefined. -/
def checkInt (n : ℤ) : Option ℤ := if -2 ^ 31 ≤ n ∧ n < 2 ^ 31 then some n else none

/-- The value of an index expression, given the values of `Fr_toInt`. -/
def Index.eval (toInt : Ptr → Option ℤ) : Index → Option ℤ
  | lit n => checkInt n
  | .toInt p => toInt p
  | add a b => do checkInt ((← a.eval toInt) + (← b.eval toInt))
  | mul a b => do checkInt ((← a.eval toInt) * (← b.eval toInt))

/-- The cell of an address.  A cell in front of an array is undefined. -/
def Address.eval (toInt : Ptr → Option ℤ) (a : Address) : Option Ptr := do
  let n ← a.index.eval toInt
  if 0 ≤ n then some ⟨a.base, a.start + n.toNat⟩ else none

/-- More results of `Fr_toInt` leave the value of an index as it is. -/
lemma Index.eval_mono {f g : Ptr → Option ℤ} (hfg : ∀ p n, f p = some n → g p = some n)
    {i : Index} {n : ℤ} (h : i.eval f = some n) : i.eval g = some n := by
  induction i generalizing n with
  | lit k => exact h
  | toInt p => exact hfg p n h
  | add a b iha ihb =>
    obtain ⟨x, hx, h⟩ := Option.bind_eq_some_iff.mp h
    obtain ⟨y, hy, h⟩ := Option.bind_eq_some_iff.mp h
    simp [eval, iha hx, ihb hy, h]
  | mul a b iha ihb =>
    obtain ⟨x, hx, h⟩ := Option.bind_eq_some_iff.mp h
    obtain ⟨y, hy, h⟩ := Option.bind_eq_some_iff.mp h
    simp [eval, iha hx, ihb hy, h]

/-- An address does not change when more values are known. -/
lemma Address.eval_mono {f g : Ptr → Option ℤ} (hfg : ∀ p n, f p = some n → g p = some n)
    {a : Address} {p : Ptr} (h : a.eval f = some p) : a.eval g = some p := by
  obtain ⟨n, hn, h⟩ := Option.bind_eq_some_iff.mp h
  simp [eval, Index.eval_mono hfg hn, h]

/-! ## Programs on the heap -/

/-- `Fr_toInt(&p)`. -/
def Heap.toInt (h : Heap Ptr) (p : Ptr) : Option ℤ := (AuthCpp.toInt (h p)).map BitVec.toInt

/-- The function of the library. -/
def Operation.heapCall (h : Heap Ptr) : Operation → Ptr → Ptr → Ptr → Heap Ptr
  | add => h.frAdd
  | sub => h.frSub
  | mul => h.frMul
  | lt => h.frLt
  | gt => h.frGt
  | eq => h.frEq

/-- A call on the heap. -/
def Instruction.heapStep (h : Heap Ptr) : Instruction → Option (Heap Ptr)
  | copy dst src => do
    let rdi ← dst.eval h.toInt
    let rsi ← src.eval h.toInt
    some (h.frCopy rdi rsi)
  | call op dst a b => do
    let rdi ← dst.eval h.toInt
    let rsi ← a.eval h.toInt
    let rdx ← b.eval h.toInt
    some (op.heapCall h rdi rsi rdx)

/-- The meaning of a program on the heap. -/
def heapMachine : CommandMachine Instruction Address (Heap Ptr) where
  step i h := i.heapStep h
  test a h := (a.eval h.toInt).map fun p => isTrue (h p)

/-! ## Programs on field elements -/

/-- The values of the initialized cells. -/
def Store : Type := Ptr → Option Fr

namespace Store

variable (s : Store)

/-- The cell `p` is set to `v`. -/
def set (p : Ptr) (v : Fr) : Store := Function.update s p (some v)

/-- The value that was written is read. -/
@[simp]
lemma set_same (p : Ptr) (v : Fr) : s.set p v p = some v := Function.update_self ..

/-- The other values stay as they are. -/
theorem set_of_ne {p p' : Ptr} (v : Fr) (h : p' ≠ p) : s.set p v p' = s p' :=
  Function.update_of_ne h ..

/-- `Fr_toInt(&p)`, for a number of 32 bits with a sign. -/
def toInt (p : Ptr) : Option ℤ := (s p).bind fun v => checkInt v.valMinAbs

/-- The records behind the initialized cells stand for their values. -/
def Refines (s : Store) (h : Heap Ptr) : Prop := ∀ p v, s p = some v → (h p).Represents v

end Store

namespace Operation

/-- The operation of the field. -/
def apply : Operation → Fr → Fr → Fr
  | add, v, w => v + w
  | sub, v, w => v - w
  | mul, v, w => v * w
  | lt, v, w => AuthCpp.frLt v w
  | gt, v, w => AuthCpp.frGt v w
  | eq, v, w => AuthCpp.frEq v w

/-- The operations that ask for a result apart from the operands. -/
def separate : Operation → Bool
  | add => true
  | sub => true
  | _ => false

end Operation

/-- A call on a store. -/
def Instruction.storeStep (s : Store) : Instruction → Option Store
  | copy dst src => do
    let rdi ← dst.eval s.toInt
    let rsi ← src.eval s.toInt
    let v ← s rsi
    some (s.set rdi v)
  | call op dst a b => do
    let rdi ← dst.eval s.toInt
    let rsi ← a.eval s.toInt
    let rdx ← b.eval s.toInt
    let v ← s rsi
    let w ← s rdx
    if op.separate ∧ (rdi = rsi ∨ rdi = rdx) then none else some (s.set rdi (op.apply v w))

/-- The meaning of a program on field elements. -/
def storeMachine : CommandMachine Instruction Address Store where
  step i s := i.storeStep s
  test a s := (a.eval s.toInt).bind fun p => (s p).map frIsTrue

/-! ## The refinement -/

namespace Store.Refines

variable {s : Store} {h : Heap Ptr}

/-- An index that is known of the field elements is what `Fr_toInt` returns of the records. -/
theorem toInt (hr : s.Refines h) {p : Ptr} {n : ℤ} (hn : s.toInt p = some n) :
    h.toInt p = some n := by
  obtain ⟨v, hv, hn⟩ := Option.bind_eq_some_iff.mp hn
  unfold checkInt at hn
  split_ifs at hn with hint
  obtain rfl := Option.some.inj hn
  rw [Heap.toInt, toInt_of_valMinAbs (hr p v hv) hint.1 hint.2, Option.map_some,
    BitVec.toInt_ofInt_eq_self (by decide) hint.1 hint.2]

/-- An address that is known of the field elements is that of the records. -/
theorem eval (hr : s.Refines h) {a : Address} {p : Ptr} (hp : a.eval s.toInt = some p) :
    a.eval h.toInt = some p :=
  Address.eval_mono (fun _ _ => hr.toInt) hp

/-- A write of a record that stands for the value. -/
theorem set (hr : s.Refines h) {h' : Heap Ptr} {p : Ptr} {v : Fr} (hv : (h' p).Represents v)
    (hframe : ∀ p' ≠ p, h' p' = h p') : (s.set p v).Refines h' := by
  intro p' w hw
  by_cases hp : p' = p
  · subst hp
    rw [Store.set_same] at hw
    obtain rfl := Option.some.inj hw
    exact hv
  · rw [Store.set_of_ne _ _ hp] at hw
    rw [hframe p' hp]
    exact hr p' w hw

end Store.Refines

/-- Without a common cell neither operand is overwritten before it is read. -/
lemma Heap.not_convertsResult {h : Heap Ptr} {rdi rsi rdx : Ptr}
    (hne : ¬(rdi = rsi ∨ rdi = rdx)) : ¬h.ConvertsResult rdi rsi rdx := by
  rintro (⟨heq, -⟩ | ⟨heq, -⟩)
  · exact hne (.inl heq)
  · exact hne (.inr heq)

namespace Operation

variable {h : Heap Ptr} {rdi rsi rdx : Ptr} {v w : Fr}

/-- The function of the library computes the operation. -/
lemma heapCall_represents (op : Operation) (hv : (h rsi).Represents v)
    (hw : (h rdx).Represents w) (hne : ¬(op.separate ∧ (rdi = rsi ∨ rdi = rdx))) :
    (op.heapCall h rdi rsi rdx rdi).Represents (op.apply v w) := by
  cases op with
  | add =>
    have hapart : ¬(rdi = rsi ∨ rdi = rdx) := fun heq => hne ⟨rfl, heq⟩
    exact Heap.frAdd_represents hv hw (Heap.not_convertsResult hapart)
  | sub =>
    have hapart : ¬(rdi = rsi ∨ rdi = rdx) := fun heq => hne ⟨rfl, heq⟩
    refine Heap.frSub_represents hv hw (Heap.not_convertsResult hapart) ?_
    rintro ⟨heq, -⟩
    exact hapart (.inr heq)
  | mul => exact Heap.frMul_represents hv hw
  | lt => exact Heap.frLt_represents hv hw
  | gt => exact Heap.frGt_represents hv hw
  | eq => exact Heap.frEq_represents hv hw

/-- The function of the library writes the result only. -/
lemma heapCall_of_ne (op : Operation) {p : Ptr} (hne : p ≠ rdi) :
    op.heapCall h rdi rsi rdx p = h p := by
  cases op with
  | add => exact Heap.frAdd_of_ne hne
  | sub => exact Heap.frSub_of_ne hne
  | mul => exact Heap.frMul_of_ne hne
  | lt => exact Heap.writeBool_of_ne h hne _
  | gt => exact Heap.writeBool_of_ne h hne _
  | eq => exact Heap.writeBool_of_ne h hne _

end Operation

/-- A call on the heap does what it does on the store.

**Proof sketch.** The operands evaluate to the same places on both sides.  The written place
represents the result, and the others are as before. -/
lemma Instruction.heapStep_refines {i : Instruction} {s s' : Store} {h : Heap Ptr}
    (hr : s.Refines h) (hstep : i.storeStep s = some s') :
    ∃ h', i.heapStep h = some h' ∧ s'.Refines h' := by
  cases i with
  | copy dst src =>
    obtain ⟨rdi, hrdi, hstep⟩ := Option.bind_eq_some_iff.mp hstep
    obtain ⟨rsi, hrsi, hstep⟩ := Option.bind_eq_some_iff.mp hstep
    obtain ⟨v, hv, hstep⟩ := Option.bind_eq_some_iff.mp hstep
    obtain rfl := Option.some.inj hstep
    refine ⟨h.frCopy rdi rsi, ?_, hr.set ?_ fun p' hp => h.set_of_ne hp _⟩
    · simp [heapStep, hr.eval hrdi, hr.eval hrsi]
    · rw [Heap.frCopy, Heap.set_same]
      exact hr rsi v hv
  | call op dst a b =>
    obtain ⟨rdi, hrdi, hstep⟩ := Option.bind_eq_some_iff.mp hstep
    obtain ⟨rsi, hrsi, hstep⟩ := Option.bind_eq_some_iff.mp hstep
    obtain ⟨rdx, hrdx, hstep⟩ := Option.bind_eq_some_iff.mp hstep
    obtain ⟨v, hv, hstep⟩ := Option.bind_eq_some_iff.mp hstep
    obtain ⟨w, hw, hstep⟩ := Option.bind_eq_some_iff.mp hstep
    split_ifs at hstep with hne
    obtain rfl := Option.some.inj hstep
    refine ⟨op.heapCall h rdi rsi rdx, ?_, hr.set ?_ fun p' hp => op.heapCall_of_ne hp⟩
    · simp [heapStep, hr.eval hrdi, hr.eval hrsi, hr.eval hrdx]
    · exact op.heapCall_represents (hr rsi v hv) (hr rdx w hw) hne

/-- **A call keeps the refinement**, and so does a test. -/
theorem storeMachine_simulates :
    CommandMachine.Simulates Store.Refines storeMachine heapMachine where
  step hr hstep := Instruction.heapStep_refines hr hstep
  test := by
    intro a s h v hr htest
    obtain ⟨p, hp, htest⟩ := Option.bind_eq_some_iff.mp htest
    obtain ⟨w, hw, rfl⟩ := Option.map_eq_some_iff.mp htest
    simp [heapMachine, hr.eval hp, (hr p w hw).isTrue, frIsTrue]

/-- **A program computes on the heap what it computes on the store.** -/
theorem run_refines {c : Program} {fuel : ℕ} {s s' : Store} {h : Heap Ptr} (hr : s.Refines h)
    (hrun : storeMachine.run fuel c s = some s') :
    ∃ h', heapMachine.run fuel c h = some h' ∧ s'.Refines h' :=
  storeMachine_simulates.run fuel hr hrun

end AuthCpp
