import Mathlib.Data.List.Basic

/-!
# The Yul fragment of the verifier contract

The instructions that the inline assembly of the verifier contract uses.  Memory is indexed by
byte address and holds one word at every address; all accesses of the contract are to addresses
that are multiples of 32, so words never overlap.  Gas is not modelled.

## Main definitions

* `Evm.Word`, `Evm.Memory`, `Evm.Env` — words, memory, and what a call sees of its environment.
* `Evm.Exec` — an execution that may end early with the returned words.
* `Evm.mstore`, `Evm.mload`, `Evm.staticcall`, `Evm.ret` — the instructions on memory.

## Main results

* `Evm.Memory.read_write` — reading back a written block.
* `Evm.Memory.write_of_lt` — a block leaves the addresses below it unchanged.
-/

set_option relaxedAutoImplicit false
set_option autoImplicit false

namespace Evm

/-! ## Words -/

/-- A word of the machine. -/
abbrev Word := BitVec 256

/-- `add`. -/
def add (a b : Word) : Word := a + b

/-- `sub`. -/
def sub (a b : Word) : Word := a - b

/-- `mod`, which is `0` for the modulus `0`. -/
def mod (a b : Word) : Word := if b = 0 then 0 else a % b

/-- `lt`. -/
def lt (a b : Word) : Word := if a.toNat < b.toNat then 1 else 0

/-- `iszero`. -/
def iszero (a : Word) : Word := if a = 0 then 1 else 0

/-- `and`. -/
def and (a b : Word) : Word := a &&& b

/-! ## Memory -/

/-- The memory of a call: the word at every byte address. -/
abbrev Memory := ℕ → Word

namespace Memory

/-- The word `v` stored at the address `a`. -/
def set (m : Memory) (a : ℕ) (v : Word) : Memory := fun b => if b = a then v else m b

/-- The `n` words from the address `a` on. -/
def read (m : Memory) (a : ℕ) : ℕ → List Word
  | 0 => []
  | n + 1 => m a :: read m (a + 32) n

/-- Words stored from the address `a` on. -/
def write (m : Memory) (a : ℕ) : List Word → Memory
  | [] => m
  | v :: vs => (m.set a v).write (a + 32) vs

/-- The stored word is read back. -/
lemma set_self (m : Memory) (a : ℕ) (v : Word) : m.set a v a = v := if_pos rfl

/-- Another word is unchanged. -/
theorem set_of_ne (m : Memory) {a b : ℕ} (v : Word) (h : b ≠ a) : m.set a v b = m b := if_neg h

/-- A block leaves the addresses below it unchanged. -/
theorem write_of_lt (m : Memory) {a b : ℕ} (ws : List Word) (h : b < a) :
    m.write a ws b = m b := by
  induction ws generalizing m a with
  | nil => rfl
  | cons v vs ih =>
    rw [write, ih (m.set a v) (by omega), set_of_ne m v (by omega)]

/-- A written block is read back. -/
theorem read_write (m : Memory) (a : ℕ) (ws : List Word) :
    (m.write a ws).read a ws.length = ws := by
  induction ws generalizing m a with
  | nil => rfl
  | cons v vs ih =>
    rw [write, List.length_cons, read, ih, write_of_lt _ vs (by omega), set_self]

end Memory

/-! ## Executions -/

/-- What a call sees: the words of its arguments in the calldata, and the precompiled contracts by
address, on words, where `none` is a failure. -/
structure Env where
  /-- The words behind the four bytes of the selector. -/
  calldata : List Word
  /-- The precompiled contracts. -/
  precompile : ℕ → List Word → Option (List Word)

/-- An execution: it changes the memory, or ends the call with the returned words. -/
abbrev Exec := StateT Memory (Except (List Word))

/-- `calldataload(p)`, for the position of an argument word. -/
def calldataload (env : Env) (p : Word) : Word := env.calldata.getD ((p.toNat - 4) / 32) 0

/-- `mload(p)`. -/
def mload (p : Word) : Exec Word := fun m => .ok (m p.toNat, m)

/-- `mstore(p, v)`. -/
def mstore (p v : Word) : Exec Unit := fun m => .ok ((), m.set p.toNat v)

/-- `return(p, s)`. -/
def ret (p s : Word) : Exec Unit := fun m => .error (m.read p.toNat (s.toNat / 32))

/-- `if c { body }`. -/
def yulIf (c : Word) (body : Exec Unit) : Exec Unit := if c = 0 then pure () else body

/-- `staticcall(gas, a, i, is, o, os)` to a precompiled contract: it reads `is` bytes from `i`
on and writes at most `os` bytes of the result from `o` on. -/
def staticcall (env : Env) (a i is o os : Word) : Exec Word := fun m =>
  match env.precompile a.toNat (m.read i.toNat (is.toNat / 32)) with
  | none => .ok (0, m)
  | some ws => .ok (1, m.write o.toNat (ws.take (os.toNat / 32)))

/-- The words that a call returns from the memory `m`, if it returns. -/
def returned (body : Exec Unit) (m : Memory) : Option (List Word) :=
  match body m with
  | .ok _ => none
  | .error ws => some ws

/-! ## Running executions -/

section Run

variable {α : Type} (m : Memory)

/-- Running a load. -/
theorem run_mload (p : Word) (k : Word → Exec α) : (mload p >>= k) m = k (m p.toNat) m := rfl

/-- Running a store. -/
theorem run_mstore (p v : Word) (k : Unit → Exec α) :
    (mstore p v >>= k) m = k () (m.set p.toNat v) := rfl

/-- Running a conditional whose condition is zero. -/
theorem run_yulIf_zero {c : Word} (hc : c = 0) (body : Exec Unit) (k : Unit → Exec α) :
    (yulIf c body >>= k) m = k () m := by
  rw [yulIf, if_pos hc]
  rfl

/-- Running a conditional whose condition is not zero and whose body returns. -/
theorem run_yulIf_error {c : Word} (hc : c ≠ 0) {body : Exec Unit} {ws : List Word}
    (hbody : body m = .error ws) (k : Unit → Exec α) : (yulIf c body >>= k) m = .error ws := by
  rw [yulIf, if_neg hc]
  change (body m >>= fun x => k x.1 x.2) = .error ws
  rw [hbody]
  rfl

/-- Running a call that succeeds. -/
theorem run_staticcall {env : Env} {a i is o os : Word} {input ws : List Word}
    (hinput : m.read i.toNat (is.toNat / 32) = input)
    (h : env.precompile a.toNat input = some ws) (k : Word → Exec α) :
    (staticcall env a i is o os >>= k) m = k 1 (m.write o.toNat (ws.take (os.toNat / 32))) := by
  change (staticcall env a i is o os m >>= fun x => k x.1 x.2) = _
  rw [staticcall, hinput, h]
  rfl

/-- Running a subroutine. -/
theorem run_bind {β : Type} {x : Exec β} {b : β} {m' : Memory} (h : x m = .ok (b, m'))
    (k : β → Exec α) : (x >>= k) m = k b m' := by
  change (x m >>= fun y => k y.1 y.2) = _
  rw [h]
  rfl

end Run

end Evm
