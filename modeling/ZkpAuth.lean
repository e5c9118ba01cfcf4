import ZkpAuth.Lib.Template
import ZkpAuth.Lib.Loop
import ZkpAuth.Lib.BitDecomposition
import ZkpAuth.Bn254
import ZkpAuth.Circomlib.Comparators
import ZkpAuth.Circomlib.PoseidonConstants
import ZkpAuth.Circuits.PublicStatement
import ZkpAuth.Scripts.VerifyHashes
import ZkpAuth.Scripts.SecretStrings
import ZkpAuth.Lib.Groth16
import ZkpAuth.Curve
import ZkpAuth.Contracts.VerifierSpec
import ZkpAuth.VerifierAgreement
import ZkpAuth.Circuits.Libs.Comparators
import ZkpAuth.Circuits.AgeComparison
import ZkpAuth.AuthCpp.Field
import ZkpAuth.AuthCpp.Machine
import ZkpAuth.AuthCpp.Layers
import ZkpAuth.AuthCpp.PoseidonEx
import ZkpAuth.AuthCpp.PoseidonRounds
import ZkpAuth.AuthCpp.AuthDat
import ZkpAuth.AuthCpp.Auth
import ZkpAuth.AuthCpp.CalcWit
import ZkpAuth.Lib.MachineWord
import ZkpAuth.Lib.Montgomery
import ZkpAuth.AuthCpp.Fr.Raw
import ZkpAuth.AuthCpp.Fr.MMul
import ZkpAuth.AuthCpp.Fr.Element
import ZkpAuth.AuthCpp.Fr.Sums
import ZkpAuth.AuthCpp.Fr.Products
import ZkpAuth.AuthCpp.Fr.Comparison
import ZkpAuth.AuthCpp.Fr.Gmp
import ZkpAuth.Lib.Command
import ZkpAuth.AuthCpp.Fr.Program
import ZkpAuth.AuthCpp.Fr.Templates
import ZkpAuth.Lib.PartialRounds
import ZkpAuth.Circomlib.PoseidonReference
import ZkpAuth.Circomlib.MatrixInverse
import ZkpAuth.Circomlib.PoseidonOptimize
import ZkpAuth.Circomlib.PoseidonOpt
import ZkpAuth.Circomlib.PoseidonReferenceConstants
import ZkpAuth.Lib.Bytes
import ZkpAuth.Iden3.BinFile
import ZkpAuth.Snarkjs.WtnsUtils
import ZkpAuth.AuthCpp.WitnessFile
import ZkpAuth.AuthJs.WitnessCalculator
