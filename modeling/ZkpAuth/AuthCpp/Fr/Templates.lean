import ZkpAuth.AuthCpp.Auth
import ZkpAuth.AuthCpp.Fr.Program

/-!
# The templates as programs over the field library

The templates of `auth_cpp/auth.cpp` without subcomponents, call by call: the loop variables, the
partial sums and the tables stand in the array `lvar`, and the results of the calls in `expaux`.
Each refines the function of the template on field elements.

The code takes the address of the destination of a value before the calls that compute it.  They
write to `expaux`, and no index reads that array, so that the address is the same afterwards.

## Main definitions

* `AuthCpp.Sigma1.program`, `AuthCpp.Ark.program`, `AuthCpp.Mix.program`, `AuthCpp.MixS.program`,
  `AuthCpp.MixLast67.program`, `AuthCpp.IsEqual70.program` — the bodies of the functions `run`.
* `AuthCpp.programTable` — the bodies by the number of the template.
* `AuthCpp.Heap.Holds` — the records of the constants and of the signals stand for given values.

## Main results

* `AuthCpp.programTable_refines` — each function of a template ends, and so does its body, loops
  included; the body computes on the heap what the function computes on the signals, whatever
  stands in the local arrays.
-/

set_option relaxedAutoImplicit false
set_option autoImplicit false

open Bn254

namespace AuthCpp

/-! ## Statements -/

/-- `&lvar[i]`. -/
def lvar (i : Index) : Address := ⟨.lvar, 0, i⟩

/-- `&expaux[i]`. -/
def expaux (i : Index) : Address := ⟨.expaux, 0, i⟩

/-- `&circuitConstants[i]`. -/
def constant (i : ℕ) : Address := ⟨.circuitConstants, 0, .lit i⟩

/-- `&signalValues[mySignalStart + i]`. -/
def signal (mySignalStart : ℕ) (i : Index) : Address := ⟨.signalValues, mySignalStart, i⟩

/-- `Fr_toInt(&lvar[i])`. -/
def toIntOf (i : ℕ) : Index := .toInt ⟨.lvar, i⟩

/-- `Fr_copy`. -/
def copy (dst src : Address) : Program := .instr (.copy dst src)

/-- `Fr_add`, `Fr_sub`, `Fr_mul` or `Fr_lt`. -/
def call (op : Operation) (dst a b : Address) : Program := .instr (.call op dst a b)

/-- The statements that copy `n` constants into the first local variables. -/
def copyTable (n : ℕ) (table : ℕ → ℕ) : List Program :=
  (List.range n).map fun i => copy (lvar (.lit i)) (constant (table i))

/-- `while (lvar[i] < 2) { body }`, where the test is computed before the loop and at the end of
its body. -/
def whileLt (i : ℕ) (body : List Program) : List Program :=
  let test := call .lt (expaux 0) (lvar (.lit i)) (constant 73)
  [test, .loop (expaux 0) (.block (body ++ [test]))]

/-- `lvar[i] = lvar[i] + 1`. -/
def increment (i : ℕ) : List Program :=
  [call .add (expaux 0) (lvar (.lit i)) (constant 74), copy (lvar (.lit i)) (expaux 0)]

/-- `lvar[acc] = lvar[acc] + lvar[coeff] * signalValues[mySignalStart + (1 * lvar[i] + off)]`, and
the next `i`. -/
def addProduct (mySignalStart acc i : ℕ) (coeff : Index) (off : ℕ) : List Program :=
  [call .mul (expaux 1) (lvar coeff) (signal mySignalStart (1 * toIntOf i + .lit off)),
    call .add (expaux 0) (lvar (.lit acc)) (expaux 1),
    copy (lvar (.lit acc)) (expaux 0)] ++ increment i

/-! ## The templates -/

/-- The body of `Sigma_1_run`. -/
def Sigma1.program (b : ℕ) : List Program :=
  [call .mul (expaux 0) (signal b 1) (signal b 1),
    copy (signal b 2) (expaux 0),
    call .mul (expaux 0) (signal b 2) (signal b 2),
    copy (signal b 3) (expaux 0),
    call .mul (expaux 0) (signal b 3) (signal b 1),
    copy (signal b 0) (expaux 0)]

/-- The body of `Ark_0_run`, ..., `Ark_66_run`.  The constant `c` is the number `r`. -/
def Ark.program (r c b : ℕ) : List Program :=
  copyTable 72 id ++
  [copy (lvar 72) (constant c), copy (lvar 73) (constant 73), copy (lvar 74) (constant 72)] ++
  whileLt 74
    ([call .add (expaux 0) (signal b (1 * toIntOf 74 + 2))
        (lvar (1 * (toIntOf 74 + .lit r) + 0)),
      copy (signal b (1 * toIntOf 74 + 0)) (expaux 0)] ++ increment 74)

/-- The body of `Mix_3_run` and `Mix_7_run`, with the constants of the matrix. -/
def Mix.program (table : ℕ → ℕ) (b : ℕ) : List Program :=
  copyTable 4 table ++
  [copy (lvar 4) (constant 73), copy (lvar 5) (constant 72), copy (lvar 6) (constant 72)] ++
  whileLt 6
    ([copy (lvar 5) (constant 72), copy (lvar 7) (constant 72)] ++
      whileLt 7 (addProduct b 5 7 (2 * toIntOf 7 + 1 * toIntOf 6 + 0) 2) ++
      [copy (signal b (1 * toIntOf 6 + 0)) (lvar 5)] ++ increment 6)

/-- The constants of the table `POSEIDON_S(2)`. -/
def MixS.table (i : ℕ) : ℕ :=
  if i % 3 = 0 then 75 else if i = 167 then 76 else 84 + 2 * (i / 3) + (i % 3 - 1)

/-- The body of `MixS_8_run`, ..., `MixS_63_run`.  The constant `c` is the number `r`. -/
def MixS.program (r c b : ℕ) : List Program :=
  copyTable 168 MixS.table ++
  [copy (lvar 168) (constant c), copy (lvar 169) (constant 73), copy (lvar 170) (constant 72),
    copy (lvar 171) (constant 72)] ++
  whileLt 171 (addProduct b 170 171 (1 * (.lit (3 * r) + toIntOf 171) + 0) 2) ++
  [copy (signal b 0) (lvar 170), copy (lvar 171) (constant 74)] ++
  whileLt 171
    [call .mul (expaux 1) (signal b 2) (constant (MixS.table (3 * r + 2))),
      call .add (expaux 0) (signal b 3) (expaux 1),
      copy (signal b 1) (expaux 0),
      copy (lvar 171) (constant 73)]

/-- The body of `MixLast_67_run`. -/
def MixLast67.program (b : ℕ) : List Program :=
  copyTable 4 (75 + ·) ++
  [copy (lvar 4) (constant 72), copy (lvar 5) (constant 73), copy (lvar 6) (constant 72),
    copy (lvar 7) (constant 72)] ++
  whileLt 7 (addProduct b 6 7 (2 * toIntOf 7 + 0 + 0) 1) ++
  [copy (signal b 0) (lvar 6)]

/-- The body of `IsEqual_70_run`. -/
def IsEqual70.program (b : ℕ) : List Program :=
  [call .sub (expaux 3) (signal b 1) (signal b 2),
    call .sub (expaux 4) (signal b 1) (signal b 2),
    call .mul (expaux 2) (expaux 3) (expaux 4),
    call .sub (expaux 0) (constant 74) (expaux 2),
    copy (signal b 0) (expaux 0)]

/-- The constants that `MixS_8_run`, ..., `MixS_63_run` copy to the local variable `r`. -/
def MixS.numbers : List ℕ :=
  [72, 74, 73, 195, 79, 198, 80, 201, 81, 196, 205, 207, 197, 210, 212, 199, 215, 217, 200, 220,
    222, 202, 225, 227, 203, 230, 232, 204, 235, 237, 206, 240, 242, 208, 245, 247, 209, 250, 252,
    211, 255, 257, 213, 260, 262, 214, 265, 267, 216, 270, 272, 218, 275, 277, 219, 280]

/-- The bodies of the functions in `_functionTable` without subcomponents. -/
def programTable (b : ℕ) : ℕ → List Program
  | 0 => Ark.program 0 72 b
  | 1 => Sigma1.program b
  | 2 => Ark.program 2 73 b
  | 3 => Mix.program (fun i => 75 + i) b
  | 4 => Ark.program 4 79 b
  | 5 => Ark.program 6 80 b
  | 6 => Ark.program 8 81 b
  | 7 => Mix.program (fun i => if i % 2 = 0 then 75 + i else 82 + i / 2) b
  | 64 => Ark.program 66 226 b
  | 65 => Ark.program 68 282 b
  | 66 => Ark.program 70 283 b
  | 67 => MixLast67.program b
  | 70 => IsEqual70.program b
  | n => MixS.program (n - 8) (MixS.numbers.getD (n - 8) 0) b

/-- The functions of these templates. -/
def leafTable (K : Constants) (n : ℕ) : Run :=
  if n = 70 then IsEqual70.run K else functionTable K n

/-! ## Stores -/

/-- The cells of the constants and of the signals have the given values. -/
structure Store.Holds (K : Constants) (ctx : Memory) (s : Store) : Prop where
  constants : ∀ i, s ⟨.circuitConstants, i⟩ = some (K.value i)
  signals : ∀ a, s ⟨.signalValues, a⟩ = some (ctx.signalValues a)

/-- The records of the constants and of the signals stand for the given values. -/
structure Heap.Holds (K : Constants) (ctx : Memory) (h : Heap Ptr) : Prop where
  constants : ∀ i, (h ⟨.circuitConstants, i⟩).Represents (K.value i)
  signals : ∀ a, (h ⟨.signalValues, a⟩).Represents (ctx.signalValues a)

/-- A cell of a local array. -/
def Ptr.IsLocal (p : Ptr) : Prop := p.base = .lvar ∨ p.base = .expaux

/-- `lvar` is local. -/
lemma isLocal_lvar (i : ℕ) : Ptr.IsLocal ⟨.lvar, i⟩ := .inl rfl

/-- `expaux` is local. -/
lemma isLocal_expaux (i : ℕ) : Ptr.IsLocal ⟨.expaux, i⟩ := .inr rfl

/-- A store after an assignment. -/
lemma Store.set_apply (s : Store) (p p' : Ptr) (v : Fr) :
    s.set p v p' = if p' = p then some v else s p' :=
  Function.update_apply ..

namespace Store.Holds

variable {K : Constants} {ctx : Memory} {s : Store}

/-- Local values do not matter to the constants and the signals. -/
lemma set_of_isLocal (h : s.Holds K ctx) {p : Ptr} (hp : p.IsLocal) (v : Fr) :
    (s.set p v).Holds K ctx := by
  constructor
  · intro i
    rw [Store.set_of_ne, h.constants]
    rintro rfl
    rcases hp with hp | hp <;> cases hp
  · intro a
    rw [Store.set_of_ne, h.signals]
    rintro rfl
    rcases hp with hp | hp <;> cases hp

/-- An assignment to a signal is an assignment to the signal of the memory. -/
lemma set_signal (h : s.Holds K ctx) (a : ℕ) (v : Fr) :
    (s.set ⟨.signalValues, a⟩ v).Holds K (ctx.setSignal a v) := by
  constructor
  · intro i
    rw [Store.set_of_ne, h.constants]
    simp
  · intro a'
    by_cases ha : a' = a
    · rw [ha, Store.set_same, Memory.setSignal_self]
    · rw [Store.set_of_ne, h.signals, Memory.setSignal_of_ne _ _ ha]
      simpa using ha

end Store.Holds

/-- The first `n` local variables have the constants of a table. -/
def Store.HasTable (K : Constants) (n : ℕ) (table : ℕ → ℕ) (s : Store) : Prop :=
  ∀ i < n, s ⟨.lvar, i⟩ = some (K.value (table i))

/-- A write to another cell. -/
theorem Store.HasTable.set {K : Constants} {n : ℕ} {table : ℕ → ℕ} {s : Store}
    (h : s.HasTable K n table) {p : Ptr} (hp : p.base = .lvar → n ≤ p.index) (v : Fr) :
    (s.set p v).HasTable K n table := by
  intro i hi
  rw [Store.set_of_ne, h i hi]
  rintro rfl
  exact absurd (hp rfl) (by simpa using hi)

/-! ## Indices -/

section Indices

variable {f : Ptr → Option ℤ} {a b : Index} {m n : ℕ}

/-- A small number is an `int`. -/
lemma checkInt_natCast (hn : n < 2 ^ 31) : checkInt (n : ℤ) = some (n : ℤ) := by
  unfold checkInt
  rw [if_pos]
  omega

/-- The value of a literal. -/
lemma Index.eval_lit (hn : n < 2 ^ 31) : (Index.lit n).eval f = some (n : ℤ) :=
  checkInt_natCast hn

/-- The value of a sum that fits an `int`. -/
lemma Index.eval_add (ha : a.eval f = some (m : ℤ)) (hb : b.eval f = some (n : ℤ))
    (hmn : m + n < 2 ^ 31) : (a + b).eval f = some ((m + n : ℕ) : ℤ) := by
  change ((a.eval f).bind fun x => (b.eval f).bind fun y => checkInt (x + y)) = _
  rw [ha, hb, Option.bind_some, Option.bind_some, ← Nat.cast_add]
  exact checkInt_natCast hmn

/-- The value of a product that fits an `int`. -/
lemma Index.eval_mul (ha : a.eval f = some (m : ℤ)) (hb : b.eval f = some (n : ℤ))
    (hmn : m * n < 2 ^ 31) : (a * b).eval f = some ((m * n : ℕ) : ℤ) := by
  change ((a.eval f).bind fun x => (b.eval f).bind fun y => checkInt (x * y)) = _
  rw [ha, hb, Option.bind_some, Option.bind_some, ← Nat.cast_mul]
  exact checkInt_natCast hmn

/-- An index with the stride one. -/
lemma Index.eval_one_mul (ha : a.eval f = some (n : ℤ)) (hn : n < 2 ^ 31) :
    (1 * a).eval f = some (n : ℤ) := by
  have hmul := Index.eval_mul (Index.eval_lit (n := 1) (by omega)) ha (by omega)
  rw [one_mul] at hmul
  exact hmul

/-- An index with the offset zero. -/
lemma Index.eval_add_zero (ha : a.eval f = some (n : ℤ)) (hn : n < 2 ^ 31) :
    (a + 0).eval f = some (n : ℤ) :=
  Index.eval_add ha (Index.eval_lit (n := 0) (by omega)) (by omega)

/-- The address of a local variable. -/
lemma eval_lvar (ha : a.eval f = some (n : ℤ)) : (lvar a).eval f = some ⟨.lvar, n⟩ := by
  simp [lvar, Address.eval, ha]

/-- The address of a signal. -/
lemma eval_signal (ha : a.eval f = some (n : ℤ)) (mySignalStart : ℕ) :
    (signal mySignalStart a).eval f = some ⟨.signalValues, mySignalStart + n⟩ := by
  simp [signal, Address.eval, ha]

/-- The address of a constant. -/
lemma eval_constant (hn : n < 2 ^ 31) :
    (constant n).eval f = some ⟨.circuitConstants, n⟩ := by
  simp [constant, Address.eval, Index.eval_lit hn]

/-- `Fr_toInt` of a small number. -/
lemma Store.toInt_natCast {s : Store} {p : Ptr} (hn : n < 2 ^ 31) (h : s p = some (n : Fr)) :
    s.toInt p = some (n : ℤ) := by
  have hhalf : 2 ^ 31 ≤ r / 2 := by decide
  rw [Store.toInt, h, Option.bind_some, ZMod.valMinAbs_natCast_of_le_half (by omega)]
  exact checkInt_natCast hn

end Indices

/-! ## Rules -/

section Rules

variable {K : Constants} {ctx : Memory} {fuel : ℕ} {s : Store} {cs : List Program}
  {Q : Store → Prop}

/-- The rule of `Fr_copy`. -/
lemma ends_copy {dst src : Address} {p q : Ptr} {v : Fr} (hdst : dst.eval s.toInt = some p)
    (hsrc : src.eval s.toInt = some q) (hv : s q = some v)
    (hcs : storeMachine.Ends fuel (.block cs) (s.set p v) Q) :
    storeMachine.Ends fuel (.block (copy dst src :: cs)) s Q := by
  refine CommandMachine.Ends.cons_instr ?_ hcs
  simp [storeMachine, Instruction.storeStep, hdst, hsrc, hv]

/-- The rule of a call. -/
lemma ends_call (op : Operation) {dst a b : Address} {p x y : Ptr} {v w : Fr}
    (hdst : dst.eval s.toInt = some p) (ha : a.eval s.toInt = some x)
    (hb : b.eval s.toInt = some y) (hv : s x = some v) (hw : s y = some w)
    (hne : ¬(op.separate ∧ (p = x ∨ p = y)))
    (hcs : storeMachine.Ends fuel (.block cs) (s.set p (op.apply v w)) Q) :
    storeMachine.Ends fuel (.block (call op dst a b :: cs)) s Q := by
  refine CommandMachine.Ends.cons_instr ?_ hcs
  simp only [storeMachine, Instruction.storeStep, hdst, ha, hb, hv, hw, Option.bind_eq_bind,
    Option.bind_some, if_neg hne]

/-- The rule of `Fr_copy` from the table of constants to a local variable. -/
lemma ends_copy_constant {i c : ℕ} (hi : i < 2 ^ 31) (hc : c < 2 ^ 31) (h : s.Holds K ctx)
    (hcs : storeMachine.Ends fuel (.block cs) (s.set ⟨.lvar, i⟩ (K.value c)) Q) :
    storeMachine.Ends fuel (.block (copy (lvar (.lit i)) (constant c) :: cs)) s Q :=
  ends_copy (eval_lvar (Index.eval_lit hi)) (eval_constant hc) (h.constants c) hcs

/-- **The table in the first local variables.** -/
theorem ends_copyTable {n : ℕ} {t : ℕ → ℕ} (hn : n < 2 ^ 31)
    (htable : ∀ i < n, t i < 2 ^ 31) (h : s.Holds K ctx) :
    storeMachine.Ends fuel (.block (copyTable n t)) s fun s' =>
      s'.Holds K ctx ∧ s'.HasTable K n t := by
  induction n with
  | zero =>
    refine .nil ⟨h, fun i hi => ?_⟩
    omega
  | succ n ih =>
    unfold copyTable
    rw [List.range_succ, List.map_append]
    refine (ih (by omega) fun i hi => htable i (by omega)).append ?_
    rintro s' ⟨hs', hlvar⟩
    refine ends_copy_constant (by omega) (htable n n.lt_succ_self) hs' (.nil ⟨?_, ?_⟩)
    · exact hs'.set_of_isLocal (isLocal_lvar n) _
    · intro i hi
      by_cases heq : i = n
      · rw [heq, Store.set_same]
      · rw [Store.set_of_ne _ _ (by simpa using heq)]
        exact hlvar i (by omega)

/-- The next value of a loop variable. -/
lemma ends_increment {i k : ℕ} (hi : i < 2 ^ 31) (h : s.Holds K ctx)
    (hk : s ⟨.lvar, i⟩ = some (k : Fr))
    (hcs : storeMachine.Ends fuel (.block cs)
      ((s.set ⟨.expaux, 0⟩ ((k + 1 : ℕ) : Fr)).set ⟨.lvar, i⟩ ((k + 1 : ℕ) : Fr)) Q) :
    storeMachine.Ends fuel (.block (increment i ++ cs)) s Q := by
  have hnext : Operation.apply .add (k : Fr) (K.value 74) = ((k + 1 : ℕ) : Fr) := by
    rw [Operation.apply, K.one, Nat.cast_add]
  have hi' := fun f => eval_lvar (f := f) (Index.eval_lit hi)
  refine ends_call .add (p := ⟨.expaux, 0⟩) rfl (hi' _) rfl hk (h.constants 74) ?_ ?_
  · simp
  · rw [hnext]
    exact ends_copy (hi' _) (q := ⟨.expaux, 0⟩) rfl (Store.set_same ..) hcs

/-- **The rule of a loop.**  The loop variable counts from `m` to two, and the invariant says
nothing of the result of the test.

**Proof sketch.** The test runs before the loop and at the end of each round, so the invariant of
the machine's rule adds to `J` that `expaux[0]` holds its result. -/
theorem ends_whileLt {i m n : ℕ} {body : List Program} (hi : i < 2 ^ 31) (hmn : m + n = 2)
    (J : ℕ → Store → Prop)
    (hcounter : ∀ k s, J k s → s ⟨.lvar, i⟩ = some ((m + k : ℕ) : Fr) ∧
      s ⟨.circuitConstants, 73⟩ = some (K.value 73))
    (hset : ∀ k s v, J k s → J k (s.set ⟨.expaux, 0⟩ v))
    (hbody : ∀ k < n, ∀ s, J k s → storeMachine.Ends fuel (.block body) s (J (k + 1)))
    (hfuel : n < fuel) (hs : J 0 s) :
    storeMachine.Ends fuel (.block (whileLt i body)) s (J n) := by
  -- The result of the test stands in `expaux[0]`.
  let I : ℕ → Store → Prop := fun k s =>
    J k s ∧ s ⟨.expaux, 0⟩ = some (frLt ((m + k : ℕ) : Fr) (K.value 73))
  have htest : ∀ k s, J k s → storeMachine.Ends fuel
      (.block [call .lt (expaux 0) (lvar (.lit i)) (constant 73)]) s (I k) := by
    intro k s hs
    obtain ⟨hk, hbound⟩ := hcounter k s hs
    refine ends_call .lt (p := ⟨.expaux, 0⟩) rfl (eval_lvar (Index.eval_lit hi)) rfl hk hbound ?_
      (.nil ⟨hset k s _ hs, Store.set_same ..⟩)
    simp [Operation.separate]
  refine (htest 0 s hs).append fun s hs => ?_
  refine CommandMachine.Ends.cons (CommandMachine.Ends.loop I ?_ ?_ hfuel hs)
    fun s hs => .nil hs.1
  · rintro k hk s ⟨-, hres⟩
    have hlt : frIsTrue (frLt ((m + k : ℕ) : Fr) (K.value 73)) = decide (k < n) := by
      have hr : 2 ≤ r / 2 := by decide
      rw [K.two, frIsTrue_frLt (by omega) hr, decide_eq_decide]
      omega
    change (some (⟨.expaux, 0⟩ : Ptr)).bind (fun p => (s p).map frIsTrue) = _
    rw [Option.bind_some, hres, Option.map_some, hlt]
  · rintro k hk s ⟨hs, -⟩
    exact (hbody k hk s hs).append fun s' hs' => htest (k + 1) s' hs'

/-- The value of a loop variable as an index. -/
lemma eval_toIntOf {i l : ℕ} (hl : l < 2) (h : s ⟨.lvar, i⟩ = some (l : Fr)) :
    (toIntOf i).eval s.toInt = some (l : ℤ) :=
  Store.toInt_natCast (by omega) h

/-- The index of an input or of an output. -/
lemma eval_one_mul_add {i l off : ℕ} (hl : l < 2) (hoff : off < 2 ^ 30)
    (h : s ⟨.lvar, i⟩ = some (l : Fr)) :
    (1 * toIntOf i + .lit off).eval s.toInt = some ((l + off : ℕ) : ℤ) := by
  have hmul := Index.eval_one_mul (eval_toIntOf hl h) (by omega)
  exact Index.eval_add hmul (Index.eval_lit (by omega)) (by omega)

/-- A loop of sums of products writes to its own cells, which lie behind the table. -/
lemma holds_hasTable_set {acc i n : ℕ} {t : ℕ → ℕ} (hacc : n ≤ acc) (hi : n ≤ i) {p : Ptr}
    (hp : p.base = .expaux ∨ p = ⟨.lvar, acc⟩ ∨ p = ⟨.lvar, i⟩) (h : s.Holds K ctx)
    (htable : s.HasTable K n t) (v : Fr) :
    (s.set p v).Holds K ctx ∧ (s.set p v).HasTable K n t := by
  rcases hp with hp | rfl | rfl
  · exact ⟨h.set_of_isLocal (.inr hp) v, htable.set (by simp [hp]) v⟩
  · exact ⟨h.set_of_isLocal (isLocal_lvar acc) v, htable.set (fun _ => hacc) v⟩
  · exact ⟨h.set_of_isLocal (isLocal_lvar i) v, htable.set (fun _ => hi) v⟩

/-- The loops of sums of products: `P` is what they leave as it is, and `c` are the coefficients,
which stand in the local variables `d`.

**Proof sketch.** The loop rule, with the sum of the first products as the value of the
accumulator. -/
lemma ends_addProducts {b acc i off : ℕ} {coeff : Index} {d : ℕ → ℕ} {c : ℕ → Fr}
    (P : Store → Prop) (hacc : acc < 2 ^ 31) (hi : i < 2 ^ 31) (hoff : off < 2 ^ 30) (hne : acc ≠ i)
    (hP : ∀ s p v, p.base = .expaux ∨ p = ⟨.lvar, acc⟩ ∨ p = ⟨.lvar, i⟩ → P s → P (s.set p v))
    (hholds : ∀ s, P s → s.Holds K ctx)
    (hcoeff : ∀ s (l : ℕ), P s → l < 2 → s ⟨.lvar, i⟩ = some (l : Fr) →
      coeff.eval s.toInt = some (d l : ℤ) ∧ s ⟨.lvar, d l⟩ = some (c l))
    (hfuel : 2 < fuel) (hs : P s) (hzero : s ⟨.lvar, acc⟩ = some (K.value 72))
    (hstart : s ⟨.lvar, i⟩ = some (K.value 72)) :
    storeMachine.Ends fuel (.block (whileLt i (addProduct b acc i coeff off))) s fun s' =>
      P s' ∧ s' ⟨.lvar, acc⟩ = some
        (Poseidon.lc (fun j : Fin 2 => c j) fun j => ctx.signalValues (b + (j + off))) := by
  let sum : ℕ → Fr := fun n =>
    Nat.rec (K.value 72) (fun l x => x + c l * ctx.signalValues (b + (l + off))) n
  have hsum : sum 2 = Poseidon.lc (fun j : Fin 2 => c j)
      fun j => ctx.signalValues (b + (j + off)) := by
    change K.value 72 + _ + _ = _
    rw [K.zero, Nat.cast_zero]
    rfl
  let J : ℕ → Store → Prop := fun l s =>
    P s ∧ s ⟨.lvar, acc⟩ = some (sum l) ∧ s ⟨.lvar, i⟩ = some (l : Fr)
  refine (ends_whileLt (K := K) hi (Nat.zero_add 2) J ?_ ?_ ?_ hfuel
    ⟨hs, hzero, by rw [hstart, K.zero]⟩).mono ?_
  · rintro k s ⟨hs, -, hk⟩
    rw [Nat.zero_add]
    exact ⟨hk, (hholds s hs).constants 73⟩
  · rintro k s v ⟨hs, hk, hk'⟩
    refine ⟨hP s _ v (.inl rfl) hs, ?_, ?_⟩
    · rwa [Store.set_of_ne _ _ (by simp)]
    · rwa [Store.set_of_ne _ _ (by simp)]
  · rintro k hk s ⟨hs, hsumk, hik⟩
    obtain ⟨hpos, hck⟩ := hcoeff s k hs hk hik
    have hsignal := eval_signal (eval_one_mul_add hk hoff hik) b
    have hacc_eval := fun f => eval_lvar (f := f) (Index.eval_lit hacc)
    refine ends_call .mul (p := ⟨.expaux, 1⟩) rfl (eval_lvar hpos) hsignal hck
      ((hholds s hs).signals _) (by simp [Operation.separate]) ?_
    have hs₁ := hP s ⟨.expaux, 1⟩ (c k * ctx.signalValues (b + (k + off))) (.inl rfl) hs
    refine ends_call .add (p := ⟨.expaux, 0⟩) (y := ⟨.expaux, 1⟩) rfl (hacc_eval _) rfl
      (v := sum k) ?_ (Store.set_same ..) (by simp) ?_
    · rwa [Store.set_of_ne _ _ (by simp)]
    have hs₂ := hP _ ⟨.expaux, 0⟩ (sum (k + 1)) (.inl rfl) hs₁
    refine ends_copy (hacc_eval _) (q := ⟨.expaux, 0⟩) rfl (Store.set_same ..) ?_
    have hs₃ := hP _ ⟨.lvar, acc⟩ (sum (k + 1)) (.inr (.inl rfl)) hs₂
    rw [← List.append_nil (increment i)]
    refine ends_increment hi (hholds _ hs₃) (k := k) ?_ (.nil ⟨?_, ?_, Store.set_same ..⟩)
    · simpa [Store.set_apply, hne.symm] using hik
    · exact hP _ _ _ (.inr (.inr rfl)) (hP _ _ _ (.inl rfl) hs₃)
    · simp only [Store.set_apply, Ptr.mk.injEq, true_and, if_neg hne, if_true]
      rfl
  · rintro s' ⟨hs', hacc', -⟩
    exact ⟨hs', by rw [hacc', hsum]⟩

/-- **The rule of a loop of the circuit code.**  A program that does in each round what the body of
the loop does on the signals does in the loop what the loop does.

**Proof sketch.** The loop of the circuit code runs its body twice.  The loop rule goes through the
memory before, between and after the two rounds. -/
theorem ends_forLoop {i n : ℕ} {t : ℕ → ℕ} {body : List Program}
    {f : Fr → Memory → Except String Memory} {ctx' : Memory} (hi : i < 2 ^ 31)
    (hbody : ∀ (l : ℕ), l < 2 → ∀ s ctx ctx', Store.Holds K ctx s → s.HasTable K n t →
      s ⟨.lvar, i⟩ = some (l : Fr) → f (l : Fr) ctx = .ok ctx' →
      storeMachine.Ends fuel (.block body) s fun s' =>
        s'.Holds K ctx' ∧ s'.HasTable K n t ∧ s' ⟨.lvar, i⟩ = some ((l + 1 : ℕ) : Fr))
    (hfuel : 2 < fuel) (h : s.Holds K ctx) (htable : s.HasTable K n t)
    (hstart : s ⟨.lvar, i⟩ = some (K.value 72)) (hrun : forLoop K (K.value 73) f ctx = .ok ctx') :
    storeMachine.Ends fuel (.block (whileLt i body)) s fun s' =>
      s'.Holds K ctx' ∧ s'.HasTable K n t := by
  rw [forLoop_two] at hrun
  obtain ⟨ctx₁, hfirst, hsecond⟩ := exists_of_bind_eq_ok hrun
  let states : ℕ → Memory := fun l => if l = 0 then ctx else if l = 1 then ctx₁ else ctx'
  let J : ℕ → Store → Prop := fun l s =>
    s.Holds K (states l) ∧ s.HasTable K n t ∧ s ⟨.lvar, i⟩ = some (l : Fr)
  have hstates : ∀ l : ℕ, l < 2 → f (l : Fr) (states l) = .ok (states (l + 1)) := by
    intro l hl
    interval_cases l
    · exact hfirst
    · exact hsecond
  refine (ends_whileLt (K := K) hi (Nat.zero_add 2) J ?_ ?_ ?_ hfuel
    ⟨h, htable, by rw [hstart, K.zero]⟩).mono fun s' hs' => ⟨hs'.1, hs'.2.1⟩
  · rintro l s ⟨hs, -, hl⟩
    rw [Nat.zero_add]
    exact ⟨hl, hs.constants 73⟩
  · rintro l s v ⟨hs, ht, hl⟩
    refine ⟨hs.set_of_isLocal (isLocal_expaux 0) v, ht.set (by simp) v, ?_⟩
    rwa [Store.set_of_ne _ _ (by simp)]
  · rintro l hl s ⟨hs, ht, hil⟩
    exact hbody l hl s (states l) (states (l + 1)) hs ht hil (hstates l hl)

/-- The statements `signalValues[mySignalStart + d] <== signalValues[mySignalStart + i] *
signalValues[mySignalStart + j]`. -/
lemma ends_mulSignals {b d i j : ℕ} (hd : d < 2 ^ 31) (hi : i < 2 ^ 31) (hj : j < 2 ^ 31)
    (h : s.Holds K ctx)
    (hcs : ∀ s', s'.Holds K (ctx.setSignal (b + d)
      (ctx.signalValues (b + i) * ctx.signalValues (b + j))) →
      storeMachine.Ends fuel (.block cs) s' Q) :
    storeMachine.Ends fuel (.block (call .mul (expaux 0) (signal b (.lit i)) (signal b (.lit j)) ::
      copy (signal b (.lit d)) (expaux 0) :: cs)) s Q := by
  refine ends_call .mul (p := ⟨.expaux, 0⟩) rfl (eval_signal (Index.eval_lit hi) b)
    (eval_signal (Index.eval_lit hj) b) (h.signals _) (h.signals _)
    (by simp [Operation.separate]) ?_
  refine ends_copy (eval_signal (Index.eval_lit hd) b) (q := ⟨.expaux, 0⟩) rfl
    (Store.set_same ..) (hcs _ ?_)
  exact (h.set_of_isLocal (isLocal_expaux 0) _).set_signal (b + d) _

end Rules

/-! ## The templates refine their functions -/

section Templates

variable {K : Constants} {ctx ctx' : Memory} {fuel k : ℕ} {s : Store}

/-- The body of `Sigma_1_run` computes `Sigma1.run`. -/
lemma Sigma1.program_ends (h : s.Holds K ctx) (hrun : Sigma1.run k ctx = .ok ctx') :
    storeMachine.Ends fuel (.block (Sigma1.program (ctx.componentMemory k).signalStart)) s
      fun s' => s'.Holds K ctx' := by
  obtain rfl := Except.ok.inj hrun
  refine ends_mulSignals (by decide) (by decide) (by decide) h fun s hs => ?_
  refine ends_mulSignals (by decide) (by decide) (by decide) hs fun s hs => ?_
  refine ends_mulSignals (by decide) (by decide) (by decide) hs fun s hs => ?_
  exact .nil hs

/-- The body of `IsEqual_70_run` computes `IsEqual70.run`.

**Proof sketch.** The instructions in their order, each with what it leaves in `expaux`. -/
lemma IsEqual70.program_ends (h : s.Holds K ctx) (hrun : IsEqual70.run K k ctx = .ok ctx') :
    storeMachine.Ends fuel (.block (IsEqual70.program (ctx.componentMemory k).signalStart)) s
      fun s' => s'.Holds K ctx' := by
  obtain rfl := Except.ok.inj hrun
  have hsignal : ∀ (f : Ptr → Option ℤ) (i : ℕ), i < 2 ^ 31 →
      (signal (ctx.componentMemory k).signalStart (.lit i)).eval f =
        some ⟨.signalValues, (ctx.componentMemory k).signalStart + i⟩ :=
    fun f i hi => eval_signal (Index.eval_lit hi) _
  refine ends_call .sub (p := ⟨.expaux, 3⟩) rfl (hsignal _ 1 (by omega)) (hsignal _ 2 (by omega))
    (h.signals _) (h.signals _) (by simp) ?_
  have h₁ := h.set_of_isLocal (isLocal_expaux 3) (ctx.signalValues
    ((ctx.componentMemory k).signalStart + 1) - ctx.signalValues
    ((ctx.componentMemory k).signalStart + 2))
  refine ends_call .sub (p := ⟨.expaux, 4⟩) rfl (hsignal _ 1 (by omega)) (hsignal _ 2 (by omega))
    (h₁.signals _) (h₁.signals _) (by simp) ?_
  have h₂ := h₁.set_of_isLocal (isLocal_expaux 4) (ctx.signalValues
    ((ctx.componentMemory k).signalStart + 1) - ctx.signalValues
    ((ctx.componentMemory k).signalStart + 2))
  refine ends_call .mul (p := ⟨.expaux, 2⟩) (x := ⟨.expaux, 3⟩) (y := ⟨.expaux, 4⟩) rfl rfl rfl
    (by rw [Store.set_of_ne _ _ (by simp), Store.set_same]) (Store.set_same ..)
    (by simp [Operation.separate]) ?_
  have h₃ := h₂.set_of_isLocal (isLocal_expaux 2) (Operation.apply .mul
    (Operation.apply .sub (ctx.signalValues ((ctx.componentMemory k).signalStart + 1))
      (ctx.signalValues ((ctx.componentMemory k).signalStart + 2)))
    (Operation.apply .sub (ctx.signalValues ((ctx.componentMemory k).signalStart + 1))
      (ctx.signalValues ((ctx.componentMemory k).signalStart + 2))))
  refine ends_call .sub (p := ⟨.expaux, 0⟩) (x := ⟨.circuitConstants, 74⟩) (y := ⟨.expaux, 2⟩) rfl
    rfl rfl (h₃.constants 74) (Store.set_same ..) (by simp) ?_
  refine ends_copy (hsignal _ 0 (by omega)) (q := ⟨.expaux, 0⟩) rfl (Store.set_same ..) (.nil ?_)
  exact (h₃.set_of_isLocal (isLocal_expaux 0) _).set_signal _ _

/-- A loop variable is read back. -/
lemma frToInt_of_lt_two {l : ℕ} (hl : l < 2) : frToInt (l : Fr) = l := by
  have hr : 2 < Bn254.r := by decide
  exact frToInt_natCast (by omega)

/-- One constant is added.

**Proof sketch.** The index of the constant evaluates to `l + r`, where the table has it.  Then the
three instructions and the increment. -/
lemma Ark.round_ends {b r l : ℕ} (hr : r + 1 < 72) (hl : l < 2) (h : s.Holds K ctx)
    (htable : s.HasTable K 72 id) (hlvar : s ⟨.lvar, 74⟩ = some (l : Fr)) :
    storeMachine.Ends fuel (.block ([call .add (expaux 0) (signal b (1 * toIntOf 74 + 2))
        (lvar (1 * (toIntOf 74 + .lit r) + 0)),
      copy (signal b (1 * toIntOf 74 + 0)) (expaux 0)] ++ increment 74)) s fun s' =>
      s'.Holds K (ctx.setSignal (b + l) (ctx.signalValues (b + (l + 2)) + K.poseidonC (l + r))) ∧
        s'.HasTable K 72 id ∧ s' ⟨.lvar, 74⟩ = some ((l + 1 : ℕ) : Fr) := by
  have hconst : (lvar (1 * (toIntOf 74 + .lit r) + 0)).eval s.toInt = some ⟨.lvar, l + r⟩ := by
    have hadd := Index.eval_add (eval_toIntOf hl hlvar) (Index.eval_lit (n := r) (by omega))
      (by omega)
    exact eval_lvar (Index.eval_add_zero (Index.eval_one_mul hadd (by omega)) (by omega))
  have hvalue : s ⟨.lvar, l + r⟩ = some (K.poseidonC (l + r)) := by
    rw [htable (l + r) (by omega), Constants.poseidonC, if_pos (by omega)]
    rfl
  refine ends_call .add (p := ⟨.expaux, 0⟩) rfl
    (eval_signal (eval_one_mul_add hl (by decide) hlvar) b) hconst (h.signals _) hvalue (by simp) ?_
  have h₁ := h.set_of_isLocal (isLocal_expaux 0)
    (ctx.signalValues (b + (l + 2)) + K.poseidonC (l + r))
  have ht₁ := htable.set (p := ⟨.expaux, 0⟩) (by simp)
    (ctx.signalValues (b + (l + 2)) + K.poseidonC (l + r))
  have hlvar₁ : s.set ⟨.expaux, 0⟩ (ctx.signalValues (b + (l + 2)) + K.poseidonC (l + r))
      ⟨.lvar, 74⟩ = some (l : Fr) := by
    rwa [Store.set_of_ne _ _ (by simp)]
  refine ends_copy (eval_signal (eval_one_mul_add hl (by decide) hlvar₁) b) (q := ⟨.expaux, 0⟩) rfl
    (Store.set_same ..) ?_
  rw [← List.append_nil (increment 74)]
  refine ends_increment (by decide) (h₁.set_signal _ _) (k := l) ?_ (.nil ⟨?_, ?_, ?_⟩)
  · rwa [Store.set_of_ne _ _ (by simp)]
  · exact ((h₁.set_signal _ _).set_of_isLocal (isLocal_expaux 0) _).set_of_isLocal
      (isLocal_lvar 74) _
  · exact ((ht₁.set (by simp) _).set (by simp) _).set (by simp) _
  · exact Store.set_same ..

/-- The body of a layer `Ark` computes `Ark.run`.

**Proof sketch.** The copies of the table and of three constants, then the loop, in which each
round is `Ark.round_ends`. -/
lemma Ark.program_ends {r c : ℕ} (hr : r + 1 < 72) (hc : c < 2 ^ 31) (hfuel : 2 < fuel)
    (h : s.Holds K ctx) (hrun : Ark.run K r k ctx = .ok ctx') :
    storeMachine.Ends fuel (.block (Ark.program r c (ctx.componentMemory k).signalStart)) s
      fun s' => s'.Holds K ctx' := by
  unfold Ark.program
  rw [List.append_assoc]
  refine (ends_copyTable (t := id) (by decide) (fun i hi => ?_) h).append ?_
  · exact hi.trans (by decide)
  rintro s ⟨h, htable⟩
  refine ends_copy_constant (i := 72) (by decide) hc h ?_
  have h₁ := h.set_of_isLocal (isLocal_lvar 72) (K.value c)
  refine ends_copy_constant (i := 73) (by decide) (by decide) h₁ ?_
  have h₂ := h₁.set_of_isLocal (isLocal_lvar 73) (K.value 73)
  refine ends_copy_constant (i := 74) (by decide) (by decide) h₂ ?_
  have h₃ := h₂.set_of_isLocal (isLocal_lvar 74) (K.value 72)
  refine (ends_forLoop (n := 72) (t := id) (by decide) ?_ hfuel h₃ ?_
    (Store.set_same ..) hrun).mono fun s' hs' => hs'.1
  · intro l hl s ctx₁ ctx₂ h htable hlvar hbody
    rw [frToInt_of_lt_two hl] at hbody
    obtain rfl := Except.ok.inj hbody
    exact Ark.round_ends hr hl h htable hlvar
  · exact ((htable.set (by simp) _).set (by simp) _).set (by simp) _

/-- One element of the mixed state.

**Proof sketch.** Two counters are reset, the inner loop adds the products (`ends_addProducts`),
and the sum is copied to the output signal. -/
lemma Mix.round_ends {b l : ℕ} {t : ℕ → ℕ} (hfuel : 2 < fuel) (hl : l < 2) (h : s.Holds K ctx)
    (htable : s.HasTable K 4 t) (hlvar : s ⟨.lvar, 6⟩ = some (l : Fr)) :
    storeMachine.Ends fuel (.block ([copy (lvar 5) (constant 72), copy (lvar 7) (constant 72)] ++
      whileLt 7 (addProduct b 5 7 (2 * toIntOf 7 + 1 * toIntOf 6 + 0) 2) ++
      [copy (signal b (1 * toIntOf 6 + 0)) (lvar 5)] ++ increment 6)) s fun s' =>
      s'.Holds K (ctx.setSignal (b + l) (Poseidon.lc (fun j : Fin 2 => K.value (t (2 * j + l)))
        fun j => ctx.signalValues (b + (j + 2)))) ∧
        s'.HasTable K 4 t ∧ s' ⟨.lvar, 6⟩ = some ((l + 1 : ℕ) : Fr) := by
  simp only [List.append_assoc]
  refine ends_copy_constant (i := 5) (by decide) (by decide) h ?_
  have h₁ := h.set_of_isLocal (isLocal_lvar 5) (K.value 72)
  refine ends_copy_constant (i := 7) (by decide) (by decide) h₁ ?_
  let P : Store → Prop := fun s => s.Holds K ctx ∧ s.HasTable K 4 t ∧ s ⟨.lvar, 6⟩ = some (l : Fr)
  refine (ends_addProducts (d := fun j => 2 * j + l) (c := fun j => K.value (t (2 * j + l))) P
    (by decide) (by decide) (by decide) (by decide) ?_ (fun s hs => hs.1) ?_ hfuel ⟨?_, ?_, ?_⟩ ?_
    (Store.set_same ..)).append ?_
  · rintro s p v hp ⟨h, htable, hlvar⟩
    obtain ⟨hset, htable'⟩ := holds_hasTable_set (by decide) (by decide) hp h htable v
    refine ⟨hset, htable', ?_⟩
    rw [Store.set_of_ne, hlvar]
    rintro rfl
    simp at hp
  · rintro s j ⟨h, htable, hlvar⟩ hj hlvar'
    refine ⟨?_, htable (2 * j + l) (by omega)⟩
    have hrow := Index.eval_mul (f := s.toInt) (Index.eval_lit (n := 2) (by omega))
      (eval_toIntOf hj hlvar') (by omega)
    have hcol := Index.eval_one_mul (eval_toIntOf hl hlvar) (by omega)
    exact Index.eval_add_zero (Index.eval_add hrow hcol (by omega)) (by omega)
  · exact h₁.set_of_isLocal (isLocal_lvar 7) _
  · exact (htable.set (by simp) _).set (by simp) _
  · rwa [Store.set_of_ne _ _ (by simp), Store.set_of_ne _ _ (by simp)]
  · rw [Store.set_of_ne _ _ (by simp), Store.set_same]
  rintro s ⟨⟨h, htable, hlvar⟩, hsum⟩
  refine ends_copy (eval_signal (eval_one_mul_add hl (by decide) hlvar) b) (q := ⟨.lvar, 5⟩) rfl
    hsum ?_
  rw [← List.append_nil (increment 6)]
  refine ends_increment (by decide) (h.set_signal _ _) (k := l) ?_ (.nil ⟨?_, ?_, ?_⟩)
  · rwa [Store.set_of_ne _ _ (by simp)]
  · exact ((h.set_signal _ _).set_of_isLocal (isLocal_expaux 0) _).set_of_isLocal
      (isLocal_lvar 6) _
  · exact ((htable.set (by simp) _).set (by simp) _).set (by simp) _
  · exact Store.set_same ..

/-- The body of a layer `Mix` computes `Mix.run`. -/
lemma Mix.program_ends {t : ℕ → ℕ} (ht : ∀ i < 4, t i < 2 ^ 31) (hfuel : 2 < fuel)
    (h : s.Holds K ctx) (hrun : Mix.run K (fun i => K.value (t i)) k ctx = .ok ctx') :
    storeMachine.Ends fuel (.block (Mix.program t (ctx.componentMemory k).signalStart)) s
      fun s' => s'.Holds K ctx' := by
  unfold Mix.program
  rw [List.append_assoc]
  refine (ends_copyTable (by decide) ht h).append ?_
  rintro s ⟨h, htable⟩
  refine ends_copy_constant (i := 4) (by decide) (by decide) h ?_
  have h₁ := h.set_of_isLocal (isLocal_lvar 4) (K.value 73)
  refine ends_copy_constant (i := 5) (by decide) (by decide) h₁ ?_
  have h₂ := h₁.set_of_isLocal (isLocal_lvar 5) (K.value 72)
  refine ends_copy_constant (i := 6) (by decide) (by decide) h₂ ?_
  have h₃ := h₂.set_of_isLocal (isLocal_lvar 6) (K.value 72)
  refine (ends_forLoop (n := 4) (t := t) (by decide) ?_ hfuel h₃ ?_
    (Store.set_same ..) hrun).mono fun s' hs' => hs'.1
  · intro l hl s ctx₁ ctx₂ h htable hlvar hbody
    rw [frToInt_of_lt_two hl, lcLoop_eq] at hbody
    obtain rfl := Except.ok.inj hbody
    exact Mix.round_ends hfuel hl h htable hlvar
  · exact ((htable.set (by simp) _).set (by simp) _).set (by simp) _

/-- The table that a layer `MixS` copies. -/
lemma poseidonS_of_lt {i : ℕ} (hi : i < 168) : K.poseidonS i = K.value (MixS.table i) :=
  if_pos hi

/-- The second element of the state, in a loop of one round.

**Proof sketch.** The loop rule for one round: the counter starts at one. -/
lemma MixS.second_ends {b c : ℕ} (hfuel : 2 < fuel) (hc : c < 2 ^ 31) (h : s.Holds K ctx)
    (hlvar : s ⟨.lvar, 171⟩ = some (K.value 74)) :
    storeMachine.Ends fuel (.block (whileLt 171
      [call .mul (expaux 1) (signal b 2) (constant c),
        call .add (expaux 0) (signal b 3) (expaux 1),
        copy (signal b 1) (expaux 0),
        copy (lvar 171) (constant 73)])) s fun s' =>
      s'.Holds K (ctx.setSignal (b + 1)
        (ctx.signalValues (b + 3) + ctx.signalValues (b + 2) * K.value c)) := by
  let states : ℕ → Memory := fun l => if l = 0 then ctx else ctx.setSignal (b + 1)
    (ctx.signalValues (b + 3) + ctx.signalValues (b + 2) * K.value c)
  let J : ℕ → Store → Prop := fun l s =>
    s.Holds K (states l) ∧ s ⟨.lvar, 171⟩ = some ((1 + l : ℕ) : Fr)
  refine (ends_whileLt (K := K) (m := 1) (n := 1) (by decide) rfl J ?_ ?_ ?_ (by omega)
    ⟨h, by rw [hlvar, K.one]⟩).mono fun s' hs' => hs'.1
  · rintro l s ⟨h, hl⟩
    exact ⟨hl, h.constants 73⟩
  · rintro l s v ⟨h, hl⟩
    refine ⟨h.set_of_isLocal (isLocal_expaux 0) v, ?_⟩
    rwa [Store.set_of_ne _ _ (by simp)]
  · rintro l hl s ⟨h, -⟩
    obtain rfl : l = 0 := by omega
    have hsignal := fun (f : Ptr → Option ℤ) (i : ℕ) (hi : i < 2 ^ 31) =>
      eval_signal (f := f) (Index.eval_lit hi) b
    refine ends_call .mul (p := ⟨.expaux, 1⟩) rfl (hsignal _ 2 (by omega)) (eval_constant hc)
      (h.signals _) (h.constants c) (by simp [Operation.separate]) ?_
    have h₁ := h.set_of_isLocal (isLocal_expaux 1) (ctx.signalValues (b + 2) * K.value c)
    refine ends_call .add (p := ⟨.expaux, 0⟩) (y := ⟨.expaux, 1⟩) rfl (hsignal _ 3 (by omega)) rfl
      (h₁.signals _) (Store.set_same ..) (by simp) ?_
    have h₂ := h₁.set_of_isLocal (isLocal_expaux 0)
      (ctx.signalValues (b + 3) + ctx.signalValues (b + 2) * K.value c)
    refine ends_copy (hsignal _ 1 (by omega)) (q := ⟨.expaux, 0⟩) rfl (Store.set_same ..) ?_
    have h₃ := h₂.set_signal (b + 1)
      (ctx.signalValues (b + 3) + ctx.signalValues (b + 2) * K.value c)
    refine ends_copy_constant (i := 171) (by decide) (by decide) h₃ (.nil ⟨?_, ?_⟩)
    · exact h₃.set_of_isLocal (isLocal_lvar 171) _
    · rw [Store.set_same, K.two]

/-- The body of a layer `MixS` computes `MixS.run`.

**Proof sketch.** The copies of the table and of four constants, then the sum of products for the
first element (`ends_addProducts`), then the loop for the second (`MixS.second_ends`). -/
lemma MixS.program_ends {r c : ℕ} (hr : r < 56) (hc : c < 2 ^ 31) (hfuel : 2 < fuel)
    (h : s.Holds K ctx) (hrun : MixS.run K r k ctx = .ok ctx') :
    storeMachine.Ends fuel (.block (MixS.program r c (ctx.componentMemory k).signalStart)) s
      fun s' => s'.Holds K ctx' := by
  have ht : ∀ i < 168, MixS.table i < 2 ^ 31 := by
    intro i hi
    unfold MixS.table
    split_ifs <;> omega
  have hcoeff : (fun j : Fin 2 => K.poseidonS (3 * r + j)) =
      fun j : Fin 2 => K.value (MixS.table (3 * r + j)) :=
    funext fun j => poseidonS_of_lt (by omega)
  rw [MixS.run, lcLoop_eq, hcoeff] at hrun
  obtain ⟨lc, hlc, hrun⟩ := exists_of_bind_eq_ok hrun
  obtain rfl := Except.ok.inj hlc
  dsimp only at hrun
  rw [singleLoop_eq K.one K.two (by omega) (by decide), poseidonS_of_lt (by omega)] at hrun
  obtain rfl := Except.ok.inj hrun
  unfold MixS.program
  simp only [List.append_assoc]
  refine (ends_copyTable (by decide) ht h).append ?_
  rintro s ⟨h, htable⟩
  refine ends_copy_constant (i := 168) (by decide) hc h ?_
  have h₁ := h.set_of_isLocal (isLocal_lvar 168) (K.value c)
  refine ends_copy_constant (i := 169) (by decide) (by decide) h₁ ?_
  have h₂ := h₁.set_of_isLocal (isLocal_lvar 169) (K.value 73)
  refine ends_copy_constant (i := 170) (by decide) (by decide) h₂ ?_
  have h₃ := h₂.set_of_isLocal (isLocal_lvar 170) (K.value 72)
  refine ends_copy_constant (i := 171) (by decide) (by decide) h₃ ?_
  let P : Store → Prop := fun s => s.Holds K ctx ∧ s.HasTable K 168 MixS.table
  refine (ends_addProducts (d := fun j => 3 * r + j)
    (c := fun j => K.value (MixS.table (3 * r + j))) P (by decide) (by decide) (by decide)
    (by decide) ?_ (fun s hs => hs.1) ?_ hfuel ⟨?_, ?_⟩ ?_ (Store.set_same ..)).append ?_
  · rintro s p v hp ⟨h, htable⟩
    exact holds_hasTable_set (by decide) (by decide) hp h htable v
  · rintro s j ⟨h, htable⟩ hj hlvar
    refine ⟨?_, htable (3 * r + j) (by omega)⟩
    have hadd := Index.eval_add (Index.eval_lit (n := 3 * r) (by omega)) (eval_toIntOf hj hlvar)
      (by omega)
    exact Index.eval_add_zero (Index.eval_one_mul hadd (by omega)) (by omega)
  · exact h₃.set_of_isLocal (isLocal_lvar 171) _
  · exact (((htable.set (by simp) _).set (by simp) _).set (by simp) _).set (by simp) _
  · rw [Store.set_of_ne _ _ (by simp), Store.set_same]
  rintro s ⟨⟨h, -⟩, hsum⟩
  refine ends_copy (eval_signal (Index.eval_lit (n := 0) (by omega)) _) (q := ⟨.lvar, 170⟩) rfl
    hsum ?_
  have h₄ := h.set_signal ((ctx.componentMemory k).signalStart + 0) (Poseidon.lc
    (fun j : Fin 2 => K.value (MixS.table (3 * r + j)))
    fun j => ctx.signalValues ((ctx.componentMemory k).signalStart + (j + 2)))
  refine ends_copy_constant (i := 171) (by decide) (by decide) h₄ ?_
  exact MixS.second_ends hfuel (ht _ (by omega)) (h₄.set_of_isLocal (isLocal_lvar 171) _)
    (Store.set_same ..)

/-- The body of the layer `MixLast` computes `MixLast67.run`.

**Proof sketch.** The copies of the table and of four constants, then the sum of products
(`ends_addProducts`), which is copied to the output. -/
lemma MixLast67.program_ends (hfuel : 2 < fuel) (h : s.Holds K ctx)
    (hrun : MixLast67.run K k ctx = .ok ctx') :
    storeMachine.Ends fuel (.block (MixLast67.program (ctx.componentMemory k).signalStart)) s
      fun s' => s'.Holds K ctx' := by
  rw [MixLast67.run, lcLoop_eq] at hrun
  obtain rfl := Except.ok.inj hrun
  unfold MixLast67.program
  simp only [List.append_assoc]
  refine (ends_copyTable (by decide) (fun i hi => ?_) h).append ?_
  · omega
  rintro s ⟨h, htable⟩
  refine ends_copy_constant (i := 4) (by decide) (by decide) h ?_
  have h₁ := h.set_of_isLocal (isLocal_lvar 4) (K.value 72)
  refine ends_copy_constant (i := 5) (by decide) (by decide) h₁ ?_
  have h₂ := h₁.set_of_isLocal (isLocal_lvar 5) (K.value 73)
  refine ends_copy_constant (i := 6) (by decide) (by decide) h₂ ?_
  have h₃ := h₂.set_of_isLocal (isLocal_lvar 6) (K.value 72)
  refine ends_copy_constant (i := 7) (by decide) (by decide) h₃ ?_
  let P : Store → Prop := fun s => s.Holds K ctx ∧ s.HasTable K 4 (75 + ·)
  refine (ends_addProducts (d := fun j => 2 * j + 0) (c := fun j => K.poseidonM (2 * j + 0)) P
    (by decide) (by decide) (by decide) (by decide) ?_ (fun s hs => hs.1) ?_ hfuel ⟨?_, ?_⟩ ?_
    (Store.set_same ..)).append ?_
  · rintro s p v hp ⟨h, htable⟩
    exact holds_hasTable_set (by decide) (by decide) hp h htable v
  · rintro s j ⟨h, htable⟩ hj hlvar
    refine ⟨?_, htable (2 * j + 0) (by omega)⟩
    have hmul := Index.eval_mul (f := s.toInt) (Index.eval_lit (n := 2) (by omega))
      (eval_toIntOf hj hlvar) (by omega)
    have hadd := Index.eval_add_zero hmul (by omega)
    exact Index.eval_add_zero hadd (by omega)
  · exact h₃.set_of_isLocal (isLocal_lvar 7) _
  · exact (((htable.set (by simp) _).set (by simp) _).set (by simp) _).set (by simp) _
  · rw [Store.set_of_ne _ _ (by simp), Store.set_same]
  rintro s ⟨⟨h, -⟩, hsum⟩
  refine ends_copy (eval_signal (Index.eval_lit (n := 0) (by omega)) _) (q := ⟨.lvar, 6⟩) rfl
    hsum (.nil ?_)
  exact h.set_signal _ _

/-- The templates without subcomponents. -/
def IsLeaf (n : ℕ) : Prop := n < 68 ∨ n = 70

/-- The templates one by one, with those of `MixS` together. -/
lemma IsLeaf.cases {n : ℕ} (hn : IsLeaf n) :
    (8 ≤ n ∧ n < 64) ∨ n ∈ [0, 1, 2, 3, 4, 5, 6, 7, 64, 65, 66, 67, 70] := by
  rw [IsLeaf] at hn
  have hcases : (8 ≤ n ∧ n < 64) ∨ n < 8 ∨ n = 64 ∨ n = 65 ∨ n = 66 ∨ n = 67 ∨ n = 70 := by omega
  rcases hcases with hmixS | hsmall | rfl | rfl | rfl | rfl | rfl
  · exact .inl hmixS
  · right
    interval_cases n <;> decide
  all_goals exact .inr (by decide)

/-- The functions of `MixS` in the table. -/
lemma leafTable_mixS {n : ℕ} (h : 8 ≤ n ∧ n < 64) : leafTable K n = MixS.run K (n - 8) := by
  obtain ⟨m, rfl⟩ : ∃ m, n = 8 + m := ⟨n - 8, by omega⟩
  rw [leafTable, if_neg (by omega), PoseidonEx68.functionTable_mixS K (by omega),
    Nat.add_sub_cancel_left]

/-- Every function of the table ends without an error. -/
lemma leafTable_ok {n : ℕ} (hn : IsLeaf n) (k : ℕ) (ctx : Memory) :
    ∃ ctx', leafTable K n k ctx = .ok ctx' := by
  rcases hn.cases with hmixS | hlist
  · rw [leafTable_mixS hmixS]
    exact ⟨_, MixS.run_eq _ rfl⟩
  · simp only [List.mem_cons, List.not_mem_nil, or_false] at hlist
    rcases hlist with rfl | rfl | rfl | rfl | rfl | rfl | rfl | rfl | rfl | rfl | rfl | rfl | rfl
    · exact ⟨_, Ark.run_eq 0 rfl⟩
    · exact ⟨_, rfl⟩
    · exact ⟨_, Ark.run_eq 2 rfl⟩
    · exact ⟨_, Mix.run_eq K.poseidonM rfl⟩
    · exact ⟨_, Ark.run_eq 4 rfl⟩
    · exact ⟨_, Ark.run_eq 6 rfl⟩
    · exact ⟨_, Ark.run_eq 8 rfl⟩
    · exact ⟨_, Mix.run_eq K.poseidonP rfl⟩
    · exact ⟨_, Ark.run_eq 66 rfl⟩
    · exact ⟨_, Ark.run_eq 68 rfl⟩
    · exact ⟨_, Ark.run_eq 70 rfl⟩
    · exact ⟨_, MixLast67.run_eq rfl⟩
    · exact ⟨_, IsEqual70.run_eq rfl⟩

/-- The bodies of `MixS` in the table. -/
lemma programTable_mixS {n : ℕ} (h : 8 ≤ n ∧ n < 64) (b : ℕ) :
    programTable b n = MixS.program (n - 8) (MixS.numbers.getD (n - 8) 0) b := by
  unfold programTable
  split <;> first | rfl | omega

/-- Each body ends on the values that the function of its template computes. -/
lemma programTable_ends {n : ℕ} (hn : IsLeaf n) (hfuel : 2 < fuel) (h : s.Holds K ctx)
    (hrun : leafTable K n k ctx = .ok ctx') :
    storeMachine.Ends fuel (.block (programTable (ctx.componentMemory k).signalStart n)) s
      fun s' => s'.Holds K ctx' := by
  rcases hn.cases with hmixS | hlist
  · have hnumbers : ∀ i < 56, MixS.numbers.getD i 0 < 2 ^ 31 := by decide
    rw [leafTable_mixS hmixS] at hrun
    rw [programTable_mixS hmixS]
    exact MixS.program_ends (by omega) (hnumbers _ (by omega)) hfuel h hrun
  · simp only [List.mem_cons, List.not_mem_nil, or_false] at hlist
    rcases hlist with rfl | rfl | rfl | rfl | rfl | rfl | rfl | rfl | rfl | rfl | rfl | rfl | rfl
    · exact Ark.program_ends (by decide) (by decide) hfuel h hrun
    · exact Sigma1.program_ends h hrun
    · exact Ark.program_ends (by decide) (by decide) hfuel h hrun
    · exact Mix.program_ends (by decide) hfuel h hrun
    · exact Ark.program_ends (by decide) (by decide) hfuel h hrun
    · exact Ark.program_ends (by decide) (by decide) hfuel h hrun
    · exact Ark.program_ends (by decide) (by decide) hfuel h hrun
    · exact Mix.program_ends (by decide) hfuel h hrun
    · exact Ark.program_ends (by decide) (by decide) hfuel h hrun
    · exact Ark.program_ends (by decide) (by decide) hfuel h hrun
    · exact Ark.program_ends (by decide) (by decide) hfuel h hrun
    · exact MixLast67.program_ends hfuel h hrun
    · exact IsEqual70.program_ends h hrun

end Templates

/-- The values that the records of the constants and of the signals stand for. -/
def storeOf (K : Constants) (ctx : Memory) : Store := fun p =>
  match p.base with
  | .circuitConstants => some (K.value p.index)
  | .signalValues => some (ctx.signalValues p.index)
  | .lvar => none
  | .expaux => none

/-- The store of the values stands for them. -/
lemma storeOf_holds (K : Constants) (ctx : Memory) : (storeOf K ctx).Holds K ctx :=
  ⟨fun _ => rfl, fun _ => rfl⟩

/-- Records that stand for the values refine the store of the values. -/
lemma Heap.Holds.refines {K : Constants} {ctx : Memory} {h : Heap Ptr} (hh : h.Holds K ctx) :
    (storeOf K ctx).Refines h := by
  rintro ⟨base, index⟩ v hv
  cases base with
  | circuitConstants =>
    obtain rfl := Option.some.inj hv
    exact hh.constants index
  | signalValues =>
    obtain rfl := Option.some.inj hv
    exact hh.signals index
  | lvar => cases hv
  | expaux => cases hv

/-- The heap after the start of the program: the records of `auth.dat`, long elements for the
signals, and any local records. -/
def datHeap (ctx : Memory) : Heap Ptr := fun p =>
  match p.base with
  | .circuitConstants => (authDatRecord p.index).toElement
  | .signalValues => ⟨0, LONG, FrRawElement.ofNat (ctx.signalValues p.index).val⟩
  | .lvar => tmp
  | .expaux => tmp

/-- It stands for the constants of the file and the signals. -/
lemma datHeap_holds (ctx : Memory) : (datHeap ctx).Holds authDat ctx :=
  ⟨authDat_represents, fun _ => FrElement.represents_long (normal_ofNat _) 0⟩

/-- **A template without subcomponents computes on the heap** what its function computes on the
signals: the function ends without an error, and from records that stand for the constants and the
signals, and any local records, the body ends in records that stand for the new signals. -/
theorem programTable_refines {K : Constants} {ctx : Memory} {n k : ℕ} {h : Heap Ptr}
    (hn : IsLeaf n) (hh : h.Holds K ctx) :
    ∃ ctx' h', leafTable K n k ctx = .ok ctx' ∧
      heapMachine.run 3 (.block (programTable (ctx.componentMemory k).signalStart n)) h = some h' ∧
      h'.Holds K ctx' := by
  obtain ⟨ctx', hrun⟩ := leafTable_ok hn k ctx
  obtain ⟨s', hs, hholds⟩ :=
    programTable_ends hn (show 2 < 3 by decide) (storeOf_holds K ctx) hrun
  obtain ⟨h', hh', hrefines⟩ := run_refines hh.refines hs
  exact ⟨ctx', h', hrun, hh', fun i => hrefines _ _ (hholds.constants i),
    fun a => hrefines _ _ (hholds.signals a)⟩

/-- The two nested loops of `Mix` end on the inputs 3 and 5 and the records of `auth.dat`. -/
theorem programTable_refines_mix :
    ∃ ctx' h', leafTable authDat 3 0 (blankMemory.setState 2 ![3, 5]) = .ok ctx' ∧
      heapMachine.run 3 (.block (programTable 0 3)) (datHeap (blankMemory.setState 2 ![3, 5])) =
        some h' ∧ h'.Holds authDat ctx' :=
  programTable_refines (k := 0) (.inl (by decide)) (datHeap_holds _)

end AuthCpp
