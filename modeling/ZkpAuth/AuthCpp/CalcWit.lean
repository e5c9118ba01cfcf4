import ZkpAuth.AuthCpp.Auth
import ZkpAuth.Circomlib.PoseidonReferenceConstants
import ZkpAuth.Circuits.PublicStatement

/-!
# Setting the inputs of the C++ witness calculator

`auth_cpp/calcwit.cpp`: the inputs are set one at a time by the hash of their names.  The table of
`auth.dat` leads from a hash to a signal, by open addressing.  When the last input is set the
circuit runs.  A failed assertion is an error with the message that the code prints.

The circuit of `auth_cpp` has four inputs and `circuits/auth.circom` ten, of which two have names
that the table knows.

## Main definitions

* `AuthCpp.fnv1a`, `AuthCpp.inputHashMap`, `AuthCpp.getInputSignalHashPosition` — from a name to its
  entry.
* `AuthCpp.CalcWit`, `AuthCpp.setInputSignal` — the state and the step.
* `AuthCpp.setInputSignals` — a sequence of steps.

## Main results

* `AuthCpp.getInputSignalHashPosition_ne_while` — the search of an entry ends.
* `AuthCpp.setInputSignals_length_le` — a sequence that ends without a failed assertion sets at most
  as many inputs as are missing.
* `AuthCpp.setInputSignals_yields` — the four inputs that the table knows can be set in any order,
  and the circuit runs on them.
* `AuthCpp.setInputSignals_accepts` — a registered user is accepted.
* `AuthCpp.setInputSignals_reference` — the run hashes as `circomlibjs` does.
* `AuthCpp.not_refines` — the ten inputs of `Auth` cannot be set.
-/

set_option relaxedAutoImplicit false
set_option autoImplicit false

open Bn254

namespace AuthCpp

/-! ## The table of the inputs -/

/-- `fnv1a`, on the bytes of the name.  A byte from `0x80` on is a negative `char`. -/
def fnv1a (s : String) : UInt64 :=
  s.toUTF8.toList.foldl
    (fun hash c =>
      (hash ^^^ (if c < 0x80 then c.toUInt64 else c.toUInt64 ||| 0xFFFFFFFFFFFFFF00)) *
        0x100000001B3)
    0xCBF29CE484222325

/-- `HashSignalInfo`. -/
structure HashSignalInfo where
  /-- The hash of the name. -/
  hash : UInt64
  /-- The first signal, `0` in an empty entry. -/
  signalid : ℕ
  /-- The number of signals. -/
  signalsize : ℕ

/-- `get_size_of_input_hashmap()`. -/
def sizeOfInputHashmap : ℕ := 256

/-- `get_main_input_signal_start()`. -/
def mainInputSignalStart : ℕ := 2

/-- `get_main_input_signal_no()`. -/
def mainInputSignalNo : ℕ := 4

/-- `InputHashMap`, as `auth.dat` has it. -/
def inputHashMap : ℕ → HashSignalInfo
  | 24 => ⟨0x4b1a493507b3a318, 5, 1⟩
  | 70 => ⟨0x79e72f642e3f3b46, 3, 1⟩
  | 185 => ⟨0xa358ec1ff0c833b9, 4, 1⟩
  | 194 => ⟨0x8636c0b76f5370c2, 2, 1⟩
  | _ => ⟨0, 0, 0⟩

/-- The loop of `getInputSignalHashPosition`, from the entry `pos` until it returns to `inipos`. -/
def probe (map : ℕ → HashSignalInfo) (h : UInt64) (inipos : ℕ) : ℕ → ℕ → Except String ℕ
  | 0, _ => .error "while"
  | fuel + 1, pos =>
    if pos ≠ inipos then
      if (map pos).hash = h then .ok pos
      else if (map pos).signalid = 0 then .error "Signal not found\n"
      else probe map h inipos fuel ((pos + 1) % sizeOfInputHashmap)
    else .error "Signals not found\n"

/-- `getInputSignalHashPosition`. -/
def getInputSignalHashPosition (map : ℕ → HashSignalInfo) (h : UInt64) : Except String ℕ :=
  let n := sizeOfInputHashmap
  let pos := h.toNat % n
  if (map pos).hash ≠ h then probe map h pos n ((pos + 1) % n) else .ok pos

/-- The walk from `k + 1` entries behind `inipos` on returns there before the bound on its length is
used up. -/
lemma probe_ne_while {map : ℕ → HashSignalInfo} {h : UInt64} {inipos : ℕ}
    (hini : inipos < sizeOfInputHashmap) (fuel k : ℕ)
    (hfuel : k + fuel + 1 = sizeOfInputHashmap) :
    probe map h inipos (fuel + 1) ((inipos + 1 + k) % sizeOfInputHashmap) ≠ .error "while" := by
  induction fuel generalizing k with
  | zero =>
    have hreturn : (inipos + 1 + k) % sizeOfInputHashmap = inipos := by
      rw [show inipos + 1 + k = inipos + sizeOfInputHashmap by omega, Nat.add_mod_right,
        Nat.mod_eq_of_lt hini]
    rw [probe, hreturn, if_neg (not_not_intro rfl)]
    simp
  | succ fuel ih =>
    have hnext : ((inipos + 1 + k) % sizeOfInputHashmap + 1) % sizeOfInputHashmap =
        (inipos + 1 + (k + 1)) % sizeOfInputHashmap := Nat.mod_add_mod ..
    rw [probe, hnext]
    split_ifs
    · simp
    · simp
    · exact ih (k + 1) (by omega)
    · simp

/-- The search of an entry ends. -/
theorem getInputSignalHashPosition_ne_while (map : ℕ → HashSignalInfo) (h : UInt64) :
    getInputSignalHashPosition map h ≠ .error "while" := by
  have hini : h.toNat % sizeOfInputHashmap < sizeOfInputHashmap := Nat.mod_lt _ (by decide)
  rw [getInputSignalHashPosition]
  split_ifs
  · exact probe_ne_while hini 255 0 rfl
  · simp

/-! ## The state and the step -/

/-- `Circom_CalcWit`. -/
structure CalcWit where
  /-- `inputSignalAssigned`. -/
  inputSignalAssigned : ℕ → Bool
  /-- `inputSignalAssignedCounter`. -/
  inputSignalAssignedCounter : ℕ
  /-- The arrays of the circuit. -/
  memory : Memory

/-- The constructor, on memory that is not initialised: only signal `0` is set. -/
def CalcWit.new (memory : Memory) : CalcWit where
  inputSignalAssigned _ := false
  inputSignalAssignedCounter := mainInputSignalNo
  memory := memory.setSignal 0 ((1 : ℕ) : Fr)

section Step

variable (K : Constants) (map : ℕ → HashSignalInfo)

/-- `tryRunCircuit`. -/
def tryRunCircuit (w : CalcWit) : Except String CalcWit :=
  if w.inputSignalAssignedCounter = 0 then do
    let memory ← run K w.memory
    return { w with memory := memory }
  else .ok w

/-- The end of `setInputSignal`, for the signal `si`. -/
def assignSignal (si : ℕ) (val : Fr) (w : CalcWit) : Except String CalcWit :=
  if w.inputSignalAssigned (si - mainInputSignalStart) then
    .error s!"Signal assigned twice: {si}\n"
  else
    tryRunCircuit K
      { inputSignalAssigned :=
          Function.update w.inputSignalAssigned (si - mainInputSignalStart) true
        inputSignalAssignedCounter := w.inputSignalAssignedCounter - 1
        memory := w.memory.setSignal si val }

/-- `setInputSignal`. -/
def setInputSignal (h : UInt64) (i : ℕ) (val : Fr) (w : CalcWit) : Except String CalcWit :=
  if w.inputSignalAssignedCounter = 0 then .error "No more signals to be assigned\n"
  else do
    let pos ← getInputSignalHashPosition map h
    if (map pos).signalsize ≤ i then .error "Input signal array access exceeds the size\n"
    else assignSignal K ((map pos).signalid + i) val w

/-- Named inputs of one signal each, set one after the other. -/
def setInputSignals (inputs : List (String × Fr)) (w : CalcWit) : Except String CalcWit :=
  inputs.foldlM (fun w p => setInputSignal K map (fnv1a p.1) 0 p.2 w) w

end Step

/-! ## The number of inputs -/

section Count

variable {K : Constants} {map : ℕ → HashSignalInfo}

/-- Running the circuit does not change the number of missing inputs. -/
lemma tryRunCircuit_counter {w w' : CalcWit} (h : tryRunCircuit K w = .ok w') :
    w'.inputSignalAssignedCounter = w.inputSignalAssignedCounter := by
  rw [tryRunCircuit] at h
  split at h
  case isTrue =>
    obtain ⟨memory, -, hw⟩ := exists_of_bind_eq_ok h
    cases hw
    rfl
  case isFalse =>
    cases h
    rfl

/-- An assigned signal is one missing input less. -/
lemma assignSignal_counter {si : ℕ} {val : Fr} {w w' : CalcWit}
    (h : assignSignal K si val w = .ok w') :
    w'.inputSignalAssignedCounter = w.inputSignalAssignedCounter - 1 := by
  rw [assignSignal] at h
  split at h
  case isTrue => cases h
  case isFalse => exact tryRunCircuit_counter h

/-- A set input was missing: there is one missing input less. -/
lemma setInputSignal_counter {h : UInt64} {i : ℕ} {val : Fr} {w w' : CalcWit}
    (hset : setInputSignal K map h i val w = .ok w') :
    w'.inputSignalAssignedCounter + 1 = w.inputSignalAssignedCounter := by
  rw [setInputSignal] at hset
  split at hset
  case isTrue => cases hset
  case isFalse hne =>
    obtain ⟨pos, -, hset⟩ := exists_of_bind_eq_ok hset
    split at hset
    case isTrue => cases hset
    case isFalse =>
      rw [assignSignal_counter hset]
      exact Nat.sub_add_cancel (Nat.pos_of_ne_zero hne)

/-- **A sequence that ends without a failed assertion sets at most the missing inputs.** -/
theorem setInputSignals_length_le {inputs : List (String × Fr)} {w w' : CalcWit}
    (h : setInputSignals K map inputs w = .ok w') :
    inputs.length ≤ w.inputSignalAssignedCounter := by
  induction inputs generalizing w with
  | nil => exact Nat.zero_le _
  | cons p inputs ih =>
    rw [setInputSignals, List.foldlM_cons] at h
    obtain ⟨w₁, hset, hrest⟩ := exists_of_bind_eq_ok h
    have hlength := ih hrest
    have hcount := setInputSignal_counter hset
    rw [List.length_cons]
    omega

end Count

/-! ## The inputs that the table knows -/

/-- The name of the input at a signal. -/
def inputName : ℕ → String
  | 2 => "storedHash"
  | 3 => "storedRole"
  | 4 => "role"
  | 5 => "password"
  | _ => ""

/-- The inputs `v` in the given order of their signals. -/
def inputsAt (v : ℕ → Fr) (order : List ℕ) : List (String × Fr) :=
  order.map fun i => (inputName i, v i)

section Known

variable {K : Constants} {v : ℕ → Fr}

/-- The table leads from the name of an input to its signal. -/
lemma inputHashMap_known : ∀ i ∈ [2, 3, 4, 5], ∃ pos,
    getInputSignalHashPosition inputHashMap (fnv1a (inputName i)) = .ok pos ∧
      (inputHashMap pos).signalid = i ∧ (inputHashMap pos).signalsize = 1 := by
  intro i hi
  fin_cases hi
  · exact ⟨194, by decide +kernel, rfl, rfl⟩
  · exact ⟨70, by decide +kernel, rfl, rfl⟩
  · exact ⟨185, by decide +kernel, rfl, rfl⟩
  · exact ⟨24, by decide +kernel, rfl, rfl⟩

/-- The state after the input at signal `i` is assigned, with `n` inputs still missing. -/
def CalcWit.assign (w : CalcWit) (n i : ℕ) (val : Fr) : CalcWit where
  inputSignalAssigned := Function.update w.inputSignalAssigned (i - mainInputSignalStart) true
  inputSignalAssignedCounter := n
  memory := w.memory.setSignal i val

/-- A missing input of a known name is assigned. -/
lemma setInputSignal_known {i : ℕ} (hi : i ∈ [2, 3, 4, 5]) {w : CalcWit} {n : ℕ}
    (hcount : w.inputSignalAssignedCounter = n + 1)
    (hfree : w.inputSignalAssigned (i - mainInputSignalStart) = false) (val : Fr) :
    setInputSignal K inputHashMap (fnv1a (inputName i)) 0 val w =
      tryRunCircuit K (w.assign n i val) := by
  obtain ⟨pos, hpos, hsignal, hsize⟩ := inputHashMap_known i hi
  rw [setInputSignal, if_neg (by omega), hpos]
  refine (if_neg (by omega)).trans ?_
  rw [hsignal, Nat.add_zero, assignSignal, hfree, hcount]
  rfl

/-- The inputs in `rest` are missing, and the others are set to `v`. -/
structure Missing (v : ℕ → Fr) (rest : List ℕ) (w : CalcWit) : Prop where
  /-- They are distinct inputs. -/
  nodup : rest.Nodup
  subset : rest ⊆ [2, 3, 4, 5]
  /-- The counter is right. -/
  counter_eq : w.inputSignalAssignedCounter = rest.length
  /-- They are not assigned. -/
  unassigned : ∀ i ∈ rest, w.inputSignalAssigned (i - mainInputSignalStart) = false
  /-- The others have their values. -/
  values : ∀ i ∈ [2, 3, 4, 5], i ∉ rest → w.memory.signalValues i = v i

/-- An assigned input is missing no more. -/
lemma Missing.assign {i : ℕ} {rest : List ℕ} {w : CalcWit} (h : Missing v (i :: rest) w) :
    Missing v rest (w.assign rest.length i (v i)) where
  nodup := h.nodup.of_cons
  subset := (List.cons_subset.mp h.subset).2
  counter_eq := rfl
  unassigned j hj := by
    have hji : j ≠ i := fun heq => (List.nodup_cons.mp h.nodup).1 (heq ▸ hj)
    have hi := h.subset (List.mem_cons_self ..)
    have hj' := h.subset (List.mem_cons_of_mem i hj)
    have hne : j - mainInputSignalStart ≠ i - mainInputSignalStart := by
      simp only [List.mem_cons, List.not_mem_nil, or_false] at hi hj'
      rw [mainInputSignalStart]
      omega
    exact (Function.update_of_ne hne _ _).trans (h.unassigned j (List.mem_cons_of_mem i hj))
  values j hj hrest := by
    by_cases hji : j = i
    · rw [hji]
      exact w.memory.setSignal_self i (v i)
    · refine (w.memory.setSignal_of_ne (v i) hji).trans (h.values j hj ?_)
      exact fun hmem => (List.mem_cons.mp hmem).elim hji hrest

/-- The circuit runs on the values once no input is missing. -/
lemma Missing.tryRunCircuit_yields {w : CalcWit} (h : Missing v [] w) :
    Yields (tryRunCircuit K w) fun w' => w'.memory.signalValues 1 =
      IsEqual70.out (K.hash (v 5)) (v 2) * IsEqual70.out (v 4) (v 3) := by
  have hcount : w.inputSignalAssignedCounter = 0 := h.counter_eq
  rw [tryRunCircuit, if_pos hcount]
  refine (run_yields w.memory).bind fun memory hout => .ok ?_
  rw [hout, h.values 2 (by simp) (by simp), h.values 3 (by simp) (by simp),
    h.values 4 (by simp) (by simp), h.values 5 (by simp) (by simp)]

/-- The first of the missing inputs is assigned. -/
lemma Missing.setInputSignals_cons {i : ℕ} {rest : List ℕ} {w : CalcWit}
    (h : Missing v (i :: rest) w) :
    setInputSignals K inputHashMap (inputsAt v (i :: rest)) w =
      (tryRunCircuit K (w.assign rest.length i (v i)) >>=
        setInputSignals K inputHashMap (inputsAt v rest)) := by
  have hi := List.mem_cons_self (a := i) (l := rest)
  rw [setInputSignals, inputsAt, List.map_cons, List.foldlM_cons,
    setInputSignal_known (h.subset hi) h.counter_eq (h.unassigned i hi)]
  rfl

/-- **The missing inputs can be set in any order.** The circuit runs after the last of them.

**Proof sketch.** Induction on the missing inputs: each step but the last assigns one of them and
leaves the others missing. -/
theorem Missing.setInputSignals_yields {i : ℕ} {rest : List ℕ} {w : CalcWit}
    (h : Missing v (i :: rest) w) :
    Yields (setInputSignals K inputHashMap (inputsAt v (i :: rest)) w) fun w' =>
      w'.memory.signalValues 1 =
        IsEqual70.out (K.hash (v 5)) (v 2) * IsEqual70.out (v 4) (v 3) := by
  rw [h.setInputSignals_cons]
  induction rest generalizing i w with
  | nil => exact h.assign.tryRunCircuit_yields.bind fun w' hout => .ok hout
  | cons j rest ih =>
    have hassign := h.assign
    have hnot : (w.assign (j :: rest).length i (v i)).inputSignalAssignedCounter ≠ 0 :=
      Nat.succ_ne_zero _
    refine Yields.of_eq (if_neg hnot) ?_
    rw [hassign.setInputSignals_cons]
    exact ih hassign

/-- A new calculator misses its four inputs. -/
lemma missing_new {order : List ℕ} (horder : order.Perm [2, 3, 4, 5]) (memory : Memory) :
    Missing v order (.new memory) where
  nodup := horder.nodup_iff.mpr (by decide)
  subset := horder.subset
  counter_eq := horder.length_eq.symm
  unassigned _ _ := rfl
  values i hi hrest := absurd (horder.mem_iff.mpr hi) hrest

/-- **A complete run of the calculator.** Its four inputs can be set in any order, and the circuit
runs on their values. -/
theorem setInputSignals_yields {order : List ℕ} (horder : order.Perm [2, 3, 4, 5])
    (memory : Memory) :
    Yields (setInputSignals K inputHashMap (inputsAt v order) (.new memory)) fun w =>
      w.memory.signalValues 1 =
        IsEqual70.out (K.hash (v 5)) (v 2) * IsEqual70.out (v 4) (v 3) := by
  cases order with
  | nil => exact absurd horder.length_eq (by decide)
  | cons i rest => exact (missing_new horder memory).setInputSignals_yields

/-- **A registered user is accepted.** With the tables of `auth.dat`, the output is `1` whenever the
stored hash is the Poseidon hash of the password and the role is the stored role. -/
theorem setInputSignals_accepts {order : List ℕ} (horder : order.Perm [2, 3, 4, 5])
    (memory : Memory) (hpassword : v 2 = Poseidon.H (v 5)) (hrole : v 4 = v 3) :
    Yields (setInputSignals authDat inputHashMap (inputsAt v order) (.new memory)) fun w =>
      w.memory.signalValues 1 = 1 := by
  refine (setInputSignals_yields horder memory).mono fun w hout => ?_
  rw [hout, hpassword, hrole, authDat_hash, IsEqual70.out_self, IsEqual70.out_self, mul_one]

/-- **The calculator hashes as the reference implementation does.** In whichever order the inputs
are set, the run compares the stored hash with what `circomlibjs` computes from the password, and
the role with the stored role. -/
theorem setInputSignals_reference {order : List ℕ} (horder : order.Perm [2, 3, 4, 5])
    (memory : Memory) :
    ∃ y, Poseidon.Reference.poseidon Poseidon.referenceTables [v 5] 0 1 = some (.inl y) ∧
      Yields (setInputSignals authDat inputHashMap (inputsAt v order) (.new memory)) fun w =>
        w.memory.signalValues 1 = IsEqual70.out y (v 2) * IsEqual70.out (v 4) (v 3) := by
  refine ⟨Poseidon.H (v 5), Poseidon.reference_eq_H (v 5), ?_⟩
  rw [← authDat_hash]
  exact setInputSignals_yields horder memory

/-- The password is set first, and the stored hash last. -/
theorem setInputSignals_reversed :
    ∃ y, Poseidon.Reference.poseidon Poseidon.referenceTables [((123 : ℕ) : Fr)] 0 1 =
        some (.inl y) ∧
      Yields (setInputSignals authDat inputHashMap
          (inputsAt (fun _ => ((123 : ℕ) : Fr)) [5, 4, 3, 2]) (.new blankMemory)) fun w =>
        w.memory.signalValues 1 = IsEqual70.out y ((123 : ℕ) : Fr) *
          IsEqual70.out ((123 : ℕ) : Fr) ((123 : ℕ) : Fr) :=
  setInputSignals_reference (v := fun _ => ((123 : ℕ) : Fr)) (by decide) blankMemory

end Known

/-! ## The inputs of the circuit source -/

/-- The ten inputs of `Auth` with their names. -/
def namedInputs (i : Auth.Inputs) : List (String × Fr) :=
  [("requiredSpecialty", i.requiredSpecialty), ("requiredMinAge", i.requiredMinAge),
    ("role", i.role), ("password", i.password), ("secretLicense", i.secretLicense),
    ("age", i.age), ("expertSpecialty", i.expertSpecialty),
    ("storedRoleHash", i.storedRoleHash), ("storedPwdHash", i.storedPwdHash),
    ("storedLicenseHash", i.storedLicenseHash)]

/-- The public part of the signals: seven signals behind the constant `1`. -/
def CalcWit.publicSignals (w : CalcWit) : Auth.PublicSignals where
  isAuthenticated := w.memory.signalValues 1
  isDoctor := w.memory.signalValues 2
  isExpert := w.memory.signalValues 3
  canRequestExpert := w.memory.signalValues 4
  isAdultPatient := w.memory.signalValues 5
  requiredSpecialty := w.memory.signalValues 6
  requiredMinAge := w.memory.signalValues 7

/-- The table knows two of the ten names, `role` and `password`. -/
lemma inputHashMap_unknown : ∀ name ∈ ["requiredSpecialty", "requiredMinAge", "secretLicense",
    "age", "expertSpecialty", "storedRoleHash", "storedPwdHash", "storedLicenseHash"],
    getInputSignalHashPosition inputHashMap (fnv1a name) = .error "Signal not found\n" := by
  decide +kernel

/-- An unknown name ends in a failed assertion. -/
lemma setInputSignal_unknown (K : Constants) {name : String} (val : Fr)
    {w : CalcWit} (hname : getInputSignalHashPosition inputHashMap (fnv1a name) =
      .error "Signal not found\n") (hw : w.inputSignalAssignedCounter ≠ 0) :
    setInputSignal K inputHashMap (fnv1a name) 0 val w =
      .error "Signal not found\n" := by
  rw [setInputSignal, if_neg hw, hname]
  rfl

/-- **The C++ witness calculator does not refine the circuit.** For every assignment of `Auth`,
satisfying or not, the ten inputs cannot be set in any order without a failed assertion: the
calculator counts four inputs. -/
theorem not_refines {K : Constants} {P : Hasher} (s : Auth.Signals P)
    (memory : Memory) {order : List (String × Fr)} (horder : order.Perm (namedInputs s.toInputs)) :
    ¬Yields (setInputSignals K inputHashMap order (.new memory))
      fun w => w.publicSignals = s.publicSignals := by
  rintro ⟨w, hw, -⟩
  have hle : order.length ≤ mainInputSignalNo := setInputSignals_length_le hw
  have hten : order.length = 10 := horder.length_eq
  rw [hten] at hle
  exact absurd hle (by decide)

/-- The registered patient of 20 years satisfies the constraints, but the inputs cannot be set. -/
theorem not_refines_registered :
    ¬Yields (setInputSignals authDat inputHashMap
        (namedInputs (Auth.registered Poseidon.H rolePatient (7 : ℕ) (7 : ℕ) (20 : ℕ)))
        (.new blankMemory))
      fun w => w.publicSignals = (Auth.compute Hasher.poseidon
        (Auth.registered Poseidon.H rolePatient (7 : ℕ) (7 : ℕ) (20 : ℕ))).publicSignals :=
  not_refines (Auth.compute Hasher.poseidon
    (Auth.registered Poseidon.H rolePatient (7 : ℕ) (7 : ℕ) (20 : ℕ))) blankMemory (.refl _)

/-- The inputs of `circuits/input.json` satisfy the constraints, but already the first of them is
unknown to the C++ witness calculator. -/
theorem inputJson_not_set :
    Auth.Constraints (Auth.compute Hasher.poseidon Auth.inputJson) ∧
      ¬Yields (setInputSignals authDat inputHashMap
          (namedInputs Auth.inputJson) (.new blankMemory))
        fun w => w.publicSignals =
          (Auth.compute Hasher.poseidon Auth.inputJson).publicSignals := by
  refine ⟨Auth.constraints_compute _ Auth.inputJson_mem_ageInRange, ?_⟩
  have hfirst := setInputSignal_unknown authDat
    Auth.inputJson.requiredSpecialty (inputHashMap_unknown "requiredSpecialty" (by simp))
    (show (CalcWit.new blankMemory).inputSignalAssignedCounter ≠ 0 by decide)
  rw [setInputSignals, namedInputs, List.foldlM_cons, hfirst]
  exact Yields.not_error

end AuthCpp
