import ZkpAuth.Contracts.Evm

/-!
# The verifier contract

`contracts/Verifier.sol`: the constants of `Groth16Verifier` and the inline assembly of
`verifyProof`, function by function.  The variables `pMem`, `_pPairing` and so on are memory
addresses, and `_pA`, `_pB`, `_pC`, `_pubSignals` are calldata positions, as in the source.

## Main definitions

* `Groth16Verifier.checkField`, `Groth16Verifier.g1MulAccC`, `Groth16Verifier.checkPairing` — the
  assembly functions.
* `Groth16Verifier.verifyProof` — the entry point, as the word it returns for its arguments.
-/

set_option relaxedAutoImplicit false
set_option autoImplicit false

open Evm

namespace Groth16Verifier

/-! ## Constants -/

/-- Scalar field size. -/
def r : Word :=
  21888242871839275222246405745257275088548364400416034343698204186575808495617

/-- Base field size. -/
def q : Word :=
  21888242871839275222246405745257275088696311157297823662689037894645226208583

/-- First coordinate of `alpha`. -/
def alphax : Word :=
  17785345053487026539319433691531194050331190382856040630627482350377211694406

/-- Second coordinate of `alpha`. -/
def alphay : Word :=
  11548238166543908736637845453325726504404188506374459469695138008119088751777

/-- Imaginary part of the first coordinate of `beta`. -/
def betax1 : Word :=
  21397580909934219844253389383059188933931642868041216208578795678427139239165

/-- Real part of the first coordinate of `beta`. -/
def betax2 : Word :=
  20841818222799041901040565042286958715461825249801686635088345376650768700608

/-- Imaginary part of the second coordinate of `beta`. -/
def betay1 : Word :=
  7776214614132224676816388990534575146027427790743514170398491978122269244873

/-- Real part of the second coordinate of `beta`. -/
def betay2 : Word :=
  2870055473651996442890862100534463330875619417052988263206466947638678520442

/-- Imaginary part of the first coordinate of `gamma`. -/
def gammax1 : Word :=
  11559732032986387107991004021392285783925812861821192530917403151452391805634

/-- Real part of the first coordinate of `gamma`. -/
def gammax2 : Word :=
  10857046999023057135944570762232829481370756359578518086990519993285655852781

/-- Imaginary part of the second coordinate of `gamma`. -/
def gammay1 : Word :=
  4082367875863433681332203403145435568316851327593401208105741076214120093531

/-- Real part of the second coordinate of `gamma`. -/
def gammay2 : Word :=
  8495653923123431417604973247489272438418190587263600148770280649306958101930

/-- Imaginary part of the first coordinate of `delta`. -/
def deltax1 : Word :=
  11559732032986387107991004021392285783925812861821192530917403151452391805634

/-- Real part of the first coordinate of `delta`. -/
def deltax2 : Word :=
  10857046999023057135944570762232829481370756359578518086990519993285655852781

/-- Imaginary part of the second coordinate of `delta`. -/
def deltay1 : Word :=
  4082367875863433681332203403145435568316851327593401208105741076214120093531

/-- Real part of the second coordinate of `delta`. -/
def deltay2 : Word :=
  8495653923123431417604973247489272438418190587263600148770280649306958101930

/-- First coordinate of `IC[0]`. -/
def IC0x : Word :=
  9809111566480429415680000581208377376165090572108236588372408265420585093366

/-- Second coordinate of `IC[0]`. -/
def IC0y : Word :=
  5398470609576608433558166702145665852658049477862037872217108933053653936256

/-- First coordinate of `IC[1]`. -/
def IC1x : Word :=
  15989911052097474718990738401229620968285237234475632669182539403947493986945

/-- Second coordinate of `IC[1]`. -/
def IC1y : Word :=
  3987613908114533341417860929870541126027828670813878844532056205974904706445

/-- First coordinate of `IC[2]`. -/
def IC2x : Word :=
  9210838787686879935443231615353376351343665960795188870161300318404972815743

/-- Second coordinate of `IC[2]`. -/
def IC2y : Word :=
  4849821925462563855680619235225621274169707603344247124852900928140425979637

/-- First coordinate of `IC[3]`. -/
def IC3x : Word :=
  10639795795837638344646161125198997534541514788108952026419752386480949090388

/-- Second coordinate of `IC[3]`. -/
def IC3y : Word :=
  20123932729477750856518480258715882169281677023156986096704757212207065931158

/-- First coordinate of `IC[4]`. -/
def IC4x : Word :=
  54559417831398480471284003286103622703912189495552428373230553594191654159

/-- Second coordinate of `IC[4]`. -/
def IC4y : Word :=
  12010850625050810590762420709198414346577312262021534975508772080583890259539

/-- First coordinate of `IC[5]`. -/
def IC5x : Word :=
  12872171167033179474014525108382245637520524225064012357044173746487250053478

/-- Second coordinate of `IC[5]`. -/
def IC5y : Word :=
  13538114455360593807377461537192798938062462778660320075425210311534170837928

/-- First coordinate of `IC[6]`. -/
def IC6x : Word :=
  4027597120004202452302007947843628155457038578501165420586449326421034774093

/-- Second coordinate of `IC[6]`. -/
def IC6y : Word :=
  1481754064847475312914124535876699525010295601407796337657834479575183774135

/-- First coordinate of `IC[7]`. -/
def IC7x : Word :=
  15241413211719014611264042548781425492311836975001195845658868104535177680489

/-- Second coordinate of `IC[7]`. -/
def IC7y : Word :=
  3902270210117145523098277415283027132817774061250690576253794986774411132684

/-- Offset of the accumulator `vk_x` in the memory of the call. -/
def pVk : Word := 0

/-- Offset of the input of the pairing check in the memory of the call. -/
def pPairing : Word := 128

/-- Size of the memory of the call. -/
def pLastMem : Word := 896

/-! ## The assembly functions -/

/-- `mstore(0, 0)`, `return(0, 0x20)`: the call returns `false`. -/
def returnFalse : Exec Unit := do
  mstore 0 0
  ret 0 0x20

/-- `checkField`. -/
def checkField (v : Word) : Exec Unit :=
  yulIf (iszero (lt v r)) returnFalse

section

variable (env : Env)

/-- `g1_mulAccC`: adds `s` times the point `(x, y)` to the point at the address `pR`. -/
def g1MulAccC (pR x y s : Word) : Exec Unit := do
  let mIn ← mload 0x40
  mstore mIn x
  mstore (add mIn 32) y
  mstore (add mIn 64) s
  let success ← staticcall env 7 mIn 96 mIn 64
  yulIf (iszero success) returnFalse
  let x' ← mload pR
  mstore (add mIn 64) x'
  let y' ← mload (add pR 32)
  mstore (add mIn 96) y'
  let success ← staticcall env 6 mIn 128 pR 64
  yulIf (iszero success) returnFalse

/-- The first part of `checkPairing`: the linear combination `vk_x`, at the address `_pVk`. -/
def computeVkX (pubSignals _pVk : Word) : Exec Unit := do
  mstore _pVk IC0x
  mstore (add _pVk 32) IC0y
  g1MulAccC env _pVk IC1x IC1y (calldataload env (add pubSignals 0))
  g1MulAccC env _pVk IC2x IC2y (calldataload env (add pubSignals 32))
  g1MulAccC env _pVk IC3x IC3y (calldataload env (add pubSignals 64))
  g1MulAccC env _pVk IC4x IC4y (calldataload env (add pubSignals 96))
  g1MulAccC env _pVk IC5x IC5y (calldataload env (add pubSignals 128))
  g1MulAccC env _pVk IC6x IC6y (calldataload env (add pubSignals 160))
  g1MulAccC env _pVk IC7x IC7y (calldataload env (add pubSignals 192))

/-- The second part of `checkPairing`: the four pairs of points, and the pairing check. -/
def checkProduct (pA pB pC pMem : Word) : Exec Word := do
  let _pPairing := add pMem pPairing
  -- -A
  mstore _pPairing (calldataload env pA)
  mstore (add _pPairing 32) (mod (sub q (calldataload env (add pA 32))) q)
  -- B
  mstore (add _pPairing 64) (calldataload env pB)
  mstore (add _pPairing 96) (calldataload env (add pB 32))
  mstore (add _pPairing 128) (calldataload env (add pB 64))
  mstore (add _pPairing 160) (calldataload env (add pB 96))
  -- alpha1
  mstore (add _pPairing 192) alphax
  mstore (add _pPairing 224) alphay
  -- beta2
  mstore (add _pPairing 256) betax1
  mstore (add _pPairing 288) betax2
  mstore (add _pPairing 320) betay1
  mstore (add _pPairing 352) betay2
  -- vk_x
  let vkX ← mload (add pMem pVk)
  mstore (add _pPairing 384) vkX
  let vkY ← mload (add pMem (add pVk 32))
  mstore (add _pPairing 416) vkY
  -- gamma2
  mstore (add _pPairing 448) gammax1
  mstore (add _pPairing 480) gammax2
  mstore (add _pPairing 512) gammay1
  mstore (add _pPairing 544) gammay2
  -- C
  mstore (add _pPairing 576) (calldataload env pC)
  mstore (add _pPairing 608) (calldataload env (add pC 32))
  -- delta2
  mstore (add _pPairing 640) deltax1
  mstore (add _pPairing 672) deltax2
  mstore (add _pPairing 704) deltay1
  mstore (add _pPairing 736) deltay2
  let success ← staticcall env 8 _pPairing 768 _pPairing 0x20
  let result ← mload _pPairing
  return Evm.and success result

/-- `checkPairing`. -/
def checkPairing (pA pB pC pubSignals pMem : Word) : Exec Word := do
  computeVkX env pubSignals (add pMem pVk)
  checkProduct env pA pB pC pMem

/-- The assembly block of `verifyProof`. -/
def body (_pA _pB _pC _pubSignals : Word) : Exec Unit := do
  let pMem ← mload 0x40
  mstore 0x40 (add pMem pLastMem)
  -- Validate that all evaluations ∈ F
  checkField (calldataload env (add _pubSignals 0))
  checkField (calldataload env (add _pubSignals 32))
  checkField (calldataload env (add _pubSignals 64))
  checkField (calldataload env (add _pubSignals 96))
  checkField (calldataload env (add _pubSignals 128))
  checkField (calldataload env (add _pubSignals 160))
  checkField (calldataload env (add _pubSignals 192))
  -- Validate all evaluations
  let isValid ← checkPairing env _pA _pB _pC _pubSignals pMem
  mstore 0 isValid
  ret 0 0x20

end

/-! ## The entry point -/

/-- The arguments of `verifyProof`. -/
structure Args where
  pA : Word × Word
  pB : (Word × Word) × (Word × Word)
  pC : Word × Word
  pubSignals : Fin 7 → Word

/-- The words of the calldata behind the selector. -/
def Args.calldata (args : Args) : List Word :=
  [args.pA.1, args.pA.2, args.pB.1.1, args.pB.1.2, args.pB.2.1, args.pB.2.2, args.pC.1,
    args.pC.2] ++ List.ofFn args.pubSignals

/-- The environment of a call. -/
def Args.env (args : Args) (precompile : ℕ → List Word → Option (List Word)) : Env where
  calldata := args.calldata
  precompile := precompile

/-- The memory at the start of the assembly block: Solidity has put the address of the free memory
at `0x40`. -/
def initialMemory : Memory := fun a => if a = 0x40 then 0x80 else 0

/-- `verifyProof`: the returned word.  The arguments lie in the calldata one behind the other, from
position 4 on.  A block that did not return would leave the result at its default. -/
def verifyProof (precompile : ℕ → List Word → Option (List Word)) (args : Args) : Word :=
  match returned (body (args.env precompile) 4 68 196 260) initialMemory with
  | none => 0
  | some ws => ws.headD 0

end Groth16Verifier
