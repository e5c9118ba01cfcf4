import ZkpAuth.AuthCpp.Field
import ZkpAuth.AuthCpp.Fr.Element

/-!
# The constants of the C++ witness calculator

The first 287 records of `circuitConstants` in `auth_cpp/auth.dat`, which `loadCircuit` of
`main.cpp` copies from behind the hash map and the list of the witness signals.  The functions that
are modelled read no others: the rest belongs to tables that no component of `Auth` uses.

All records are in Montgomery form.  The short ones hold the number and the limbs, the long ones the
limbs only.

## Main definitions

* `AuthCpp.authDatRecords` — the records as the file has them.
* `AuthCpp.authDat` — the field elements that they stand for.

## Main results

* `AuthCpp.authDat_represents` — the records stand for these field elements.
* `AuthCpp.authDat_poseidon`, `AuthCpp.authDat_hash` — the file has the tables of circomlib.
-/

set_option relaxedAutoImplicit false
set_option autoImplicit false

open Bn254

namespace AuthCpp

/-! ## Records -/

/-- A record of the file, in Montgomery form. -/
inductive DatRecord where
  /-- The number and the limbs of a short element. -/
  | short (shortVal longVal : ℕ)
  /-- The limbs of a long element. -/
  | long (longVal : ℕ)

namespace DatRecord

/-- The element that is copied from the file. -/
def toElement : DatRecord → FrElement
  | short s n => ⟨.ofNat 32 s, SHORTMONTGOMERY, .ofNat n⟩
  | long n => ⟨0, LONGMONTGOMERY, .ofNat n⟩

/-- The inverse of `2 ^ 256` modulo `r`. -/
def inverseR : ℕ := 9915499612839321149637521777990102151350674507940716049588462388200839649614

/-- The number that the record stands for. -/
def toNat : DatRecord → ℕ
  | short s _ => s
  | long n => n * inverseR % r

/-- The limbs are reduced, and those of a short record belong to its number. -/
def Valid : DatRecord → Prop
  | short s n => s < 2 ^ 31 ∧ n = s * 2 ^ 256 % r
  | long n => n < r

/-- Validity is decided by arithmetic on the limbs. -/
instance : DecidablePred Valid
  | short _ _ => inferInstanceAs (Decidable (_ ∧ _))
  | long _ => inferInstanceAs (Decidable (_ < _))

/-- Reduced limbs are those of their number. -/
lemma normal_ofNat_of_lt {n : ℕ} (hn : n < r) : Normal (.ofNat n) (n : Fr) := by
  have h := normal_ofNat (n : Fr)
  rwa [ZMod.val_cast_of_lt hn] at h

/-- The inverse cancels `R`. -/
lemma inverseR_mul_R : (inverseR : Fr) * R = 1 := by
  rw [R, ← Nat.cast_mul, ← Nat.cast_one, ZMod.natCast_eq_natCast_iff']
  decide

/-- A valid record stands for its number. -/
lemma Valid.represents {c : DatRecord} (hc : c.Valid) : c.toElement.Represents (c.toNat : Fr) := by
  cases c with
  | short s n =>
    obtain ⟨hs, rfl⟩ := hc
    refine FrElement.represents_shortMontgomery ?_ ?_
    · rw [BitVec.toInt_ofNat', Int.bmod_eq_of_le (by omega) (by omega), Int.cast_natCast]
      rfl
    · have h := normal_ofNat_of_lt (Nat.mod_lt (s * 2 ^ 256) r_prime.pos)
      rwa [ZMod.natCast_mod, Nat.cast_mul] at h
  | long n =>
    refine FrElement.represents_longMontgomery ?_ _
    have hvalue : ((n * inverseR % r : ℕ) : Fr) * R = n := by
      rw [ZMod.natCast_mod, Nat.cast_mul, mul_assoc, inverseR_mul_R, mul_one]
    rw [toNat, hvalue]
    exact normal_ofNat_of_lt hc

end DatRecord

/-- The records of the file, in their order. -/
def authDatRecords : List DatRecord := [
  .long 0x258feaeab003c81c1584c4902cfebe673eb0f4319a6fa1ba96c453dc58aca67,
  .long 0x1d29e209ed432b39f1c713591a60e7353812d56244476181999f128f883214ee,
  .long 0x1cf36c6ecd15c25637afda6ec3ff5974e6facbf5c7a0f667b12a21dde55ee9ae,
  .long 0x19e1e4d0adc71cd6875eda1b7edd5a9296e238a27b85afb631c602bfb6dd5b63,
  .long 0x1bb88436f2a6c73bd0308a809f29a74362772649f22f1e02c80755aa22a0f6fe,
  .long 0x2177153705a8f6f997ee8d480b1f39eff56755a76ada11965568846ecab5a547,
  .long 0x980ec55bd7db0073e49840ec85e039d8f2b2ab31a3308e5ff8dc85c9d28e0a6,
  .long 0x17c8e56d73abc0a214f8a65bc7790cdeeece8ee655c172db1f039c69fcbfc980,
  .long 0x12cae2aba85d004f5c92554aee7849829a53b2941a18bb257309586c6f15fc99,
  .long 0x1f3b8b12a798073186a425f52a9bcc5e81c4b75cb48da1393c1286d05804f0a3,
  .long 0xb2307f3aa4f2813f87a27dfd135910cd372a094af0d20c5e3fecc809aee4cde,
  .long 0x2b215cd91383a07405ce9b889cb81a41420497edf7946bc41872500c8c276c00,
  .long 0x34c14c7faeb2442b4a7b985b2f09824413afcd65d8d6c3f56e9402ff14e5992,
  .long 0xf840706db1f06e8eb38a6c2909f61e8dbd9578828b7d6a3439bbfc9a7b7e872,
  .long 0x561009693e5b537b1702fa0f63b110c7776c5d943ec34f707261952b727c9a,
  .long 0x1a89fa7f9815ebf5dfc4c219b3aafab418bbf14ca488905a7885533e581de8f3,
  .long 0x23a5f77779941e1b6f52e810b63bcef1e7462e70e7a8009e938047ca86bcbb4,
  .long 0x1ce5dead72cade292ab0d8b04c31decdb265a3734459a9ecd227fff6fa52201d,
  .long 0x26d19e07701da291751a28dcf99c3bd4959196744a2290b11cdff389552b1692,
  .long 0x644859f892570d02b4ed6531ca07e2762657bcbbda02dbcbfd37bcb1f6d22ee,
  .long 0x1f33e96e5c25a8a9d5ada7b0f6f0790540a86a044ef0b13085284a93ec23c494,
  .long 0xca83f2b7e62d32833f6927ffa56e7ffb0e6a5016da20c82e1f53d6b7d5c65e0,
  .long 0x2b372a6577e0c8a039b932b9415388b068647738f2188d9a9d1e03531eb9a54c,
  .long 0x288c2ff5bd3426b6977ec24f009c7f84c735438d1a1ec3b77e9dc142ac7609ac,
  .long 0x62c71ded7e913304f12553763927214f552e25a9938cda1103cb42eafcc3af9,
  .long 0xd4c8396c8c11fbdd810280aa00cde63fe83ca68a9b4d7f35183091a4786ae0d,
  .long 0x935f9d48a409333a175e09ba24d719b182fdddf538292c1f8ea3e65622f179f,
  .long 0x13013ec930b2128ea5dd37c4fa35b515db0ffb670f88a2aaeb5b56f898d4f1e2,
  .long 0x2eaf4ce56f187711799bbc9029e4be02fc2761bd4533ac5491e71c6d9c57e19f,
  .long 0x9f2e88265acf3b2a80540e476cf8191907aa3c5eecd150e7c5d0abafe1b144f,
  .long 0x1b3cc55761794420b8aac14561407ca1eda27264f4b94a2c03ce9b7bad94d990,
  .long 0x1c230c0bc37351d39c71b17dbc70f05328ee6a2b0db4f73606c67778a33baace,
  .long 0x2aa76c432f3e2c95fbc1e6db2d23d4e6c18891226bbeb4109c1c3f29e49fbbfc,
  .long 0x12a87d3655cc989adf04c57b938abd58afa2182b8cc797fbf96df7f0bd5f7506,
  .long 0x290c078fb13b2170f6fa87e72308175dcf62b22a6f9ad9136d36af9f4ac9d454,
  .long 0x3b51041e8442d609910b9e83504960597a2afb379a993fc70ca47eef7cd6b0f,
  .long 0x195358be023b12060b00bae265ca49149835bcc136431a3d5e36eb148ebe2ab1,
  .long 0xae519cfae4bd6ae700504b3febcb733a13e1bdcd682998e643833990972812d,
  .long 0x1dfe52bf2528286586749f81bc3938cf112d5c2f8c7e7f982c8477218655ec2,
  .long 0x2d4f755ff2427af92e2598af78083e87302a70209e5fe587a57f999d1d078191,
  .long 0xf61261da2cb89d3f9001455f1ca872efe9de7cbd17d008877049a6bf9a6b177,
  .long 0xa61d792d55c41eeedb0360c1f2df39e399e92789bbede92b6d3fe85681ff41a,
  .long 0x9421340975d24397395356a98a1f7eee1fcef15396f1e13c2eb545d6c416b25,
  .long 0x25fbd7fe0f1fcb3f0323958dac8883a9ea6d89d87be0fb432ad7d43ed55ae19e,
  .long 0xcd7dd1a3175b01d00de00979c285aed52870f087bca4784533d00a70b16b64f,
  .long 0x10c5958682c15b783a1f7e6fca150a5db1880786c7938613f5fd9542d580bfb4,
  .long 0x144bc3fa1ebe78cac7d9765f8f371c1ed613fa033dfa63022e23cbaefb298409,
  .long 0x296664f37e8924f727fe6f9b8b648b8c11a59927841209305cc86d171eaa514b,
  .long 0xa81565736547e44978ea0982049b8a466ecb4545aaa243d2f75547a03ec98e0,
  .long 0x293031173e272c8e27a062d19342367fd865baa6dfcbe28d96072e51d50ecc5b,
  .long 0xa3e5b07e63f4f882b37537a61b403b35e48167827af7827f8727bd502b9f90f,
  .long 0x352af4b77d85deec71856455e88a093d8ebd83f19f8b201142cebce38fc13e7,
  .long 0x1a5c261a4c1ec3de721c2dc2d59e57bfdf5c464fa2e1fc10b931cfffd6f0fe16,
  .long 0x1daad6bd66faabdeec6f69713b503ba61364f676b6728dab139f84f2b518f4a9,
  .long 0x26cab2b2e27298700fb03f2404877805f7ecf7fc13fd2c57994333f9def4de3a,
  .long 0xde5a48169132475875a62c775b13d006839f8d9a30890f9e09f1750d9bd8053,
  .long 0x177f67e659aafb48dbe132d21d33f77cf40bc20ad001579093c41275729c8f0,
  .long 0x1f6820898d4116b2053ed1e0fd958b346fce69f4fdaf58c471f2317ba0b0cfb8,
  .long 0x10d6ebe7d2d5c1354ce517bf53b2c6ea810453aa9db44960478616c58de695b7,
  .long 0x257597ffdedd536a627ee9b6403d3dceb5c405473accc86b71503cd7346b8cf1,
  .long 0x1c34e8890fb451f7e65ba2fc0a4456751e7279d2949ac4c532ef18e40a41c6c8,
  .long 0x15d161fd865b398b927ae68dc16582d77488b49cab197d945513ed75e7a1a94e,
  .long 0x2fcbd3ce006e2bb8f98fa0da24995b1a585cbd901e135e19a43d98dfb2fe3277,
  .long 0x20c4065abcbb945659aca8e948a44175e0ce6e0584dacb75190460535ced2840,
  .long 0x212e565d4e0b3e2520e05abec88612cf181551c91a2c34e5419465520e3dd1cc,
  .long 0x1590d80bdc5e82f3dd1deade6211f89cb733415e69d8f8b90de5be8256ae6ee4,
  .long 0x157b39c9ea50df11b24e4ba1191a57eaf36e2a42510376ffcb6ca975ee930f6d,
  .long 0x19aba34dd534edbf936857629378a59d6fe178b2bfc57219b2a58182ae63c41f,
  .long 0x1ef04938819e5b5f9235c1c284575dcb8c01214c3aedc50209054a1f7cbf9944,
  .long 0x2857f4ff231c35aadabacb5b34f813e8b63b3aecbfc453950fd5ce739c865d8c,
  .long 0x99cbb12ba9a88db7e1e58b696c04f939a5cd0ff0d6fdded965b9c71cf784faa,
  .long 0x171a9150ba5437917ebfb3677538eb3d29cd760b2397011442c31e18aaadb406,
  .short 0 0x0,
  .short 2 0x1c14ef83340fbe5eccdd46def0f28c5c6df8ed2b3ec19a53592c68389ffffff6,
  .short 1 0xe0a77c19a07df2f666ea36f7879462e36fc76959f60cd29ac96341c4ffffffb,
  .long 0x1e6197b9dc74448bead42bc5207ce75b49c37c46f4fa97b6f8b2f47577922da4,
  .long 0x2e82e796daea67c3fe8b92243f7d9e5853cc09060b99f372536d530e1905be54,
  .long 0x264b0b0f2fad086d03a88bce6ac257ff4443f72e7c6ff1e2c91fea8d2d7f6ead,
  .long 0x12df481b6fddc4904b955057a5d7a0b56780f80ec0391debe2e3947380b63a9c,
  .short 4 0x7c5909386eddc93e16a48076063c05bb3bdf20e03c9c4156e76dadd4fffffeb,
  .short 6 0x23da8016bafd9af2ae478ee651564cb821b6df39428b5e68c7a34315efffffe1,
  .short 8 0xf8b21270ddbb927c2d4900ec0c780b7677be41c0793882adcedb5ba9fffffd6,
  .long 0x7c7009203027010b99e1d7ffa456741ec80b1d05a8f56da67ad5d218a6e76b8,
  .long 0x1523d124a215d055d26b5523d87cadfd8a9d84922e7d4576cc8539d7f05865e6,
  .long 0xedae9561bb063382a7b70cc77fdce855f44813d6c2210a9fe0cdc1a0d6516f0,
  .long 0x9b6a5ec445588371c6c658890e0b2736f4498cff6e15bd6f27ceaea8435a2bc,
  .long 0xdaa5fdbbda984c07febb432e248c670c363b4777484a41c498903c85692cea6,
  .long 0x1c198dec6c1237970297f4780765d0c7cadf227a0c0216cdfe605c02a1bef0f0,
  .long 0x198fc1aef2a3499c3214dab47f9e6e7ed5cc9a170c0f06894ff397e140757e34,
  .long 0x1c85161cda8dc09e0dd6da0dafc53d97c6c99a4f6a2cc2e6572c3a72016195bd,
  .long 0xeca8d6cec824f38b672d80868981a27064db1895986e19fcfde0ef0abb0a902,
  .long 0x1ad6c300a3ed5d7f5ab8011a762cf22705e93abd0cb4bcf7f1fae08253b7116a,
  .long 0x1f35ffeb1a67c9ac2359ede361c931a3428ec995701377e6ee1cf93dd2ee2f6e,
  .long 0x1fef3a963f8e2fec806f3dfd906cc8a510fd1ac6e9ba79aaef4d7438e411cabb,
  .long 0xc6bd2181ee065e0aa1df0f4a6fb1b68f24bb7cd73a175ca82a273f9be5e9621,
  .long 0x1e316542993a8bd0e208e825343403ae7ddfde4db474ffb93099e74c4cdb6141,
  .long 0x14429e98fd4427522ab3dc3b3610aa734f9f435f6a94862b973eeddc9a3a8585,
  .long 0x1cd91df9d416d0cb4fbe72e1b5fe396799e1a7ee56281caf0d5864fb400daebc,
  .long 0x44db488a61d0e1c17bf6019a4e5d3c2a01598b8e0eb83c8343dbab56d7d8078,
  .long 0xdb1306e75be16fa5f2ac67144d5f5a23b4ce261838b204e612f1652bd0a833f,
  .long 0xa775f65a61d9a13cf40f150fd19ace36db4b2edbab31dfff00a4916141a4754,
  .long 0x1b79ca430414282f5164bcc1d6004ea7fb4a2defdcc82c50821a77a3918c0b2f,
  .long 0x29b96d0b6b3a17cc52528d1629081a1f79034543521bc32a86d704b1632d2045,
  .long 0x2520c47969dd5abd8ff3ed54c5217b97557f71293beb5771cea97e3ddccadd59,
  .long 0x1ec91165c7788d3e5508b14948ae01fa2e355c5ed086d50a344ec962c64ce09,
  .long 0x2243954df1cc910ab980ee6b5411fcfa1f9693fc4fa7d2bfa5c6ceb328487402,
  .long 0x16300da32b5b847b218a9dee0d73e7c3ae5c2985e0534de414fc5b29a0374269,
  .long 0xefe8e6e7e6f85fdfb6c2c198348d4a35e1e3d26b1b2958366ce72461753f130,
  .long 0x2d238ab83356bcf2f52126fe23e229655112a72007a2d0448d15992ea4b6d7c5,
  .long 0x1461895252be00a9ec51ac3b6ec52bdf5c8e7d0b411a5edd97cf47b09847d848,
  .long 0xd076b7b56e4a3cf13eb6b2112984b7928066d9d7f0fa0d2d0cfaccffaa80ca1,
  .long 0x14f274bec9319fd213fb922bb40977b5234fdf8dcebfbcf93594a3579ccda6c1,
  .long 0x7452fa4dedc7ba99be6dc7fc5f5d8ca78db3c0e56a82ce7eb5b6d5e430afe75,
  .long 0x3af6623049b4b823afceb6f7746a4a00459af550ab398c13865a58562b60f47,
  .long 0x12397916a9ea46253c2a40ada47475473f3835255857df4afcd17b3003261955,
  .long 0x2e5a142b842d021558b92a1dca453d697ef691f47b603aba64420fd0bdfeb274,
  .long 0x4f4c26be55c1169b6df0be48e732fd3b9ba52f4e404330decd07c459a881fe6,
  .long 0x2867ab9b9c465b94eec7751940ab16acebabcfbbd4b0c310b8361d29aeae8d22,
  .long 0x73ca4e4022d4039d50beb9267b2aee08b9b1a9d1de445e9e3612db8e338ea56,
  .long 0x1fed9421deaa607909880fc2f3183b4feabda919c5778d56176a144c861c03cd,
  .long 0x1fc299c537bb3b909fec3eb185a688da0426890fffcc092d94bb47bf9c8bff46,
  .long 0x1f2f5a5c7d5024c34c8b0aa331e9e0df2e536cb8c4d3ee2e9a9b268b83b6687c,
  .long 0x1d9238fd2edff1349358749d5b3bb6cf67cc13af5826fa6d8e6cbafd56f20399,
  .long 0xd0d67b8f7aab8f60927841f4601f59eb58061dab311a8c61877a2aeb3027d70,
  .long 0x1a458f19ac9e522375fcda782927cd636ab574de125f5781495b679551a422a3,
  .long 0x11d7cf6bc17557ad51ae97520858049b46a33d3af591f9f77c2dc086966224bf,
  .long 0x3d7eab71f7cd7909c89c41391d4e34048fefb52b4a76ccf75838f573388de68,
  .long 0xb2a1cd8cb6dc7d8d4efee5d926a45ce615d646936c26dd0fd54c1dc61d18a17,
  .long 0x2aa0bfde19b7a575cc88f428fec7b4305f7934df24416078feae9a72f6e26a83,
  .long 0x53288f501aa105dacedf035d25c618338fa4c887a068c032270c0ba28ca1b85,
  .long 0x276d9b85abcab3483e89c2f76e7e9a2eb853d6d587c4aff25ec5fa782c3840fb,
  .long 0x27d8c1a2595cd426ec8863a53470ec73c8536cbb6bfb6bde0eb6c0ef4bf2afce,
  .long 0x28738af878ee5d7325dc8ac0b2baa7c77432d0bc21b7277be1cd16eb0adf7148,
  .long 0x13cbfa271157762fb286d6c7c2bb16c3b61fac76103861b7628a6b829eb53bba,
  .long 0x1b1631595e46eaf4619b3e7aa51e15a0e2f33710382d115e83f82025d3d0b5e,
  .long 0xa1ab5cb2ee030a0b939fa1b1f74028c1def697f2b90335f71251416cb54d05d,
  .long 0x879bd4421199747018785429ea32df48e500c3f77d4d1e685eb92e6f9346a40,
  .long 0x14086db0c46127541d8c7852fa9f960c2223fcb551655c24b8bab07fda216cbb,
  .long 0x19ad250c65034cc870bc6edcaef6bcc3db981d1b14c3f72d24a572abbb6d9469,
  .long 0xd1dc438392ed78b2049f9e6a049ec51e432ab96d904e0cb6c077a89b1ed9d0,
  .long 0x149762142432c7b1188ca2884de15f57a6aa553580258bfaf3baca9535ca4e6e,
  .long 0x292793d9c06f464a503c3c954d8703c0963fdfc840d70ff3a9c9c8ded3bab0fd,
  .long 0x769035c822441bf4ae9900c3eb403e5da77ad6468872eb1cbd6d3f5803c6513,
  .long 0x303a078135fe28faad48825986b25b13a76dcb8a2a5ffc9144d289ee266b5cd,
  .long 0x2360496ff85e6a311d53dc9629c3abd00c39f06e77ee65dcf02055d7754d87e5,
  .long 0x5b95e6d4ad6b1e8a4a1aa97dd73faa99676a11de4d45b30eca732dc73a2443c,
  .long 0x97049b05d05177a902543db050b3a320ea3d89046235bd526b5231325fffa83,
  .long 0x21d2eaab5dc750572491cf9a02a75a1d81fae68eac321a77082b85795e970166,
  .long 0x2eab2c7b84f2a6eedecd89f2d09b100ee011d643d96f4a2d52c24079ff50108a,
  .long 0x10a5fba23482d62bdb6352d19a97f6211e4055f288ac274599e801256fa9ef82,
  .long 0x2e16844f343be6e01ecb16da35a9704bc7eaa393ee24badbf74a0acf7afb4f12,
  .long 0x1fc245867858a76cabc3cfb7a1293b10f2c9b3059ef61ef6330193d0ffa552f,
  .long 0x29617e41de21c02192bcf8ecff449a8d1cb8af06c7b19d789c84ee026617ffce,
  .long 0x4a315d2551c71389c89510941d0dab15ea82c79931bad971dda4310801d59b5,
  .long 0x2fb32e8d850be9847618a2ce6cb0fda586066f56369c591341b7e56c3efd4458,
  .long 0x2030d8651c85a361520f263cc18a1b4d0571865aef6f69363f0d91f731974a18,
  .long 0xe0cd10b4e9083e3837a4063658fe6bc87f746a63964adb39799bc5793cb7a11,
  .long 0x1263f4c6871e20561cb1feaf5b5566c6d80e3249817af200819ee987d7026e33,
  .long 0x5c3c94a44e39acbbad1a16142da6478d6d4eaa3b590d1df3f2605fd46963411,
  .long 0x1930aba73a093f72f139acc27ac8884f71b87dae6835d52517df5efc64ef4bff,
  .long 0x279fa3200d021ae8a620e9656e6af947f458170542775bb95d7ef9aa4b8bd2d6,
  .long 0x33aa65a095f4feb6d3388d82ad9e7457363ce73e8e41fa10a6669c4e702adb9,
  .long 0x2af4a38deca1621d1e4071549096659754430f1d852afc1d2c3da292bcc3f002,
  .long 0x78d8b2caebde86a89b8bf563d45f96d732c5f0a8e7dbc781b7a582eccb44025,
  .long 0x142775952d5d1e88bbbe6fbd372fd69acf03868540f72d629d04ee7496e20ea2,
  .long 0x22e3c862361a68045e4a7bd3c8a29bee737718e807858bb14e89d7597fb1f961,
  .long 0xcf515355db4acae47878cad0f3145bb9b9a231a3c2cca89063cf750cce0782d,
  .long 0x187448a9a992afb274e0715233f2c89756ff21066f34d6d0dd3caf93ba9f2d14,
  .long 0x1ec1bc9ef96a838dc9332480f0922b99fae5f3a86cb27eca3415f0a48d334cb,
  .long 0x1aad9ca0524011ffd1c3276f92a50211e5d543ca50debfbbe1dbe8cbeb72b36e,
  .long 0x213c5a518473a23ce4be7beb88f11b4c9f05ed3e15d1e89493ed78d2cacd0e95,
  .long 0x10f86b7647eabe69691b1bfdffdf5f6ca8f91903d8375f2fa52217915d33ff58,
  .long 0x170e2c425a605908eb8599ad09628cdd39c2e8ab746516f151f2435f9c901554,
  .long 0x87616a90bf2a87a718754ce57fd51ae3ff8195a40f60e82f00ab5b20278007,
  .long 0x1b2d200cb9e13ed8125c2d81ef5328e9eab78fc4c998941a19466a544df346d3,
  .long 0x26f1861bbe0b7e2f5a72e790a7d3ecb76a0a044ec16c3673454a14d58adec283,
  .long 0x900a9149b4ec629cfcacc2a6acf9752c9ac84fa0b5898206a62f93e892db417,
  .long 0x80b7f82ca13a183296b92f33a773a38433414937e5274b4067a3add875513e7,
  .long 0x2f6f206a339a943e3b00e32dc45f6d05afa0f2e6531cea513c5be7f55e2b6c,
  .long 0x154ab5c38d8e8a3d0cfcfbddf2d015d178b841748444d8ca4c068c7828b58ad3,
  .long 0xc3bc27fdb788a6143a1a25cbcccc99b46dcf69fc300ad6f6cebcaa04de32750,
  .long 0x2d093c7a787b3eb62a1dfff4852e6ad96e5da0bb8697b1ad88ad30a2bbd43467,
  .long 0x4f12da473bb67362ec81161795faba693e1556cd00ec82d7bb6ba77de0608e0,
  .long 0x15441efbaa62bae3fe9a1704e05ab029e49ed0c948d0251ebdc730f757832cdf,
  .long 0x2368c97cc747219e0f9b397ec076aec496ee935ed2f741aeda30b43108f93ad6,
  .long 0x1166960768d907a01e5f5230c20b6937fb72051a3ae471e11b64abe14cada2d,
  .long 0x1d3957707e28758ffa0fb789ad3011eae2099c9511d339850e12f0a8205bc65d,
  .long 0x1514850c20b1573ad42b27cd0df872aa43d2cb5b5814d3ed323873174ad1b103,
  .long 0x1cf42ecb9a5428d17f81459b736492e695dbe80c8beda8f37ab2f1dc5bade7e5,
  .long 0xf21f559014694339f3a407845287ba89f99e513c507af0e116d2b5f9220a0e3,
  .long 0x1c6e12e6b4c077d728d9b2272d30d690a9a6f95ea8785045eb4921d7d6c2fb20,
  .long 0x1c17f769b846e38a5817ef4b5ec88782c52826b5a6cf8814f008154343d845e2,
  .long 0x241fd631a3384918b1e0a75efdd3d01334f92eb12c1562cfd671dad9a34b6bc6,
  .long 0xcb4e49c24ae0c3a8f0379e7fbe89ea396aa3c0bfd5cbec0e9ec7901e7ba6bb6,
  .long 0x27ba141fa6033951575d8cb3901eeeeec250594b3ba1d527d7350141ba1a6fa7,
  .short 3 0x2a1f6744ce179d8e334bea4e696bd28aa4f563c0de22677d05c29c54effffff1,
  .short 9 0x1d9598e8a7e398572943337e3940c6e59e785ab1a6f455548983e9d6efffffd1,
  .short 12 0x1750b1ba94c995bba43ed816212b41131b39d62a0b5d4c404b649097efffffc1,
  .short 5 0x15d0085520f5bbc347d8eb76d8dd0689eaba68a3a32a913f1b0d0ef99fffffe6,
  .short 15 0x110bca8c81af93201f3a7cae0915bb4097fb51a26fc6432c0d453758efffffb1,
  .short 18 0xac6e35e6e9590849a362145f100356e14bccd1ad42f3a17cf25de19efffffa1,
  .short 7 0x180a96573d3d9f85c65ec9f484e3a89307f6d866832bb013057819e4fffffdb,
  .short 21 0x481fc305b7b8de91531c5ddd8eaaf9b917e489338983103910684daefffff91,
  .short 24 0x2ea1637529932b77487db02c425682263673ac5416ba988096c9212fdfffff82,
  .short 27 0x285c7c47167928dbc37954c42a40fc53b33527cc7b238f6c58a9c7f0dfffff72,
  .short 10 0x2ba010aa41eb77868fb1d6edb1ba0d13d574d1474655227e361a1df33fffffcc,
  .short 30 0x22179519035f26403e74f95c122b76812ff6a344df8c86581a8a6eb1dfffff62,
  .short 11 0x94639f8fac1b68c3dd034a6a8b1fae4e43d5f946bfc7f169ece5c7b9fffffc6,
  .short 33 0x1bd2adeaf04523a4b9709df3fa15f0aeacb81ebd43f57d43dc6b1572dfffff52,
  .short 36 0x158dc6bcdd2b2109346c428be2006adc29799a35a85e742f9e4bbc33dfffff42,
  .short 13 0x255b297c2ed174eb0aad7b8599a4874152364cbfaabe1969f7fac4b43fffffbc,
  .short 39 0xf48df8eca111e6daf67e723c9eae509a63b15ae0cc76b1b602c62f4dfffff32,
  .short 14 0x30152cae7a7b3f0b8cbd93e909c751260fedb0cd065760260af033c9fffffb6,
  .short 42 0x903f860b6f71bd22a638bbbb1d55f3722fc912671306207220d09b5dfffff22,
  .short 45 0x2bf1132a3dd1936a55f305399bfd9649fbe0c9ed59958f2e3edb076dfffff12,
  .short 16 0x1f16424e1bb7724f85a9201d818f016ecef7c8380f271055b9db6b753fffffac,
  .short 48 0x2cde787771f4b6c4d8ab1aa2032babef44b3705fb3bbc06fe9b04ccbcfffff03,
  .short 17 0x2d20ba0fb5bf517eec17c38cfa08479d05f43ecdae87dd7f66719f918fffffa7,
  .short 51 0x269991495edab42953a6bf39eb16261cc174ebd81824b75bab90f38ccffffef3,
  .short 54 0x2054aa1b4bc0b18dcea263d1d300a04a3e3667507c8dae476d719a4dcffffee3,
  .short 19 0x18d15b20089d6fb400a4c4b569797b9c4bb943b0739007417bbc12363fffff9c,
  .short 57 0x1a0fc2ed38a6aef2499e0869baeb1a77baf7e2c8e0f6a5332f52410ecffffed3,
  .short 20 0x26dbd2e1a2a54ee367136824e1f2c1ca82b5ba4612f0d46b285246528fffff97,
  .short 60 0x13cadbbf258cac56c499ad01a2d594a537b95e41455f9c1ef132e7cfcffffec3,
  .short 63 0xd85f4911272a9bb3f9551998ac00ed2b47ad9b9a9c8930ab3138e90cffffeb3,
  .short 22 0x128c73f1f5836d187ba0694d5163f5c9c87abf28d7f8fe2d3d9cb8f73fffff8c,
  .short 66 0x7410d62ff58a71fba90f63172aa8900313c55320e3189f674f43551cffffea3,
  .short 23 0x2096ebb38f8b4c47e20f0cbcc9dd3bf7ff7735be7759cb56ea32ed138fffff87,
  .short 69 0xfc2634ec3ea484358c9ac95a95032dadfdd0aa729a80e236d4dc12cffffe93,
  .short 72 0x2b1b8d79ba56421268d88517c400d5b852f3346b50bce85f3c977867bffffe84,
  .short 25 0xc478cc3e2696a7cf69c0de5394e6ff7453c3aa13c61f518ff7d5fb83fffff7c,
  .short 75 0x24d6a64ba73c3f76e3d429afabeb4fe5cfb4afe3b525df4afe781f28bffffe74,
  .short 26 0x1a5204857c7149ac5d0ab154b1c7b6257c38b136dbc2c242ac1393d48fffff77,
  .short 78 0x1e91bf1d94223cdb5ecfce4793d5ca134c762b5c198ed636c058c5e9bffffe64,
  .short 81 0x184cd7ef81083a3fd9cb72df7bc04440c937a6d47df7cd2282396caabffffe54,
  .short 28 0x602a595cf4f67e17197b27d2138ea24c1fdb619a0caec04c15e06793fffff6c,
  .short 84 0x1207f0c16dee37a454c7177763aabe6e45f9224ce260c40e441a136bbffffe44,
  .short 29 0x140d1d5769574710d80655ec99b23052f8fa2caf402bb92e6df43a958fffff67,
  .short 87 0xbc309935ad43508cfc2bc0f4b95389bc2ba9dc546c9bafa05faba2cbffffe34,
  .short 90 0x57e226547ba326d4abe60a7337fb2c93f7c193dab32b1e5c7db60edbffffe24,
  .short 31 0x30220cda9d67056fa4e39ccb8aa4bcaf66f319da7eed5381c720a2ce2fffff5d,
  .short 93 0x2f9d89aa15d1cffb7e0a4af59ceb8553e4717cfe89551962cd9dfd42affffe15,
  .short 32 0xdc83629563d44755301fa84819caa8075bba827a494b01a2fd4e1568fffff57,
  .short 96 0x2958a27c02b7cd5ff905ef8d84d5ff816132f876edbe104e8f7ea403affffe05,
  .short 99 0x2313bb4def9dcac4740194256cc079aeddf473ef5227073a515f4ac4affffdf5,
  .short 34 0x29dd25ac8a4d02d41fdf4163728f36dce3b49552e3564a6d8901498f2fffff4d,
  .short 102 0x1cced41fdc83c828eefd38bd54aaf3dc5ab5ef67b68ffe26133ff185affffde5,
  .short 35 0x7834efb432341d9cdfd9f1c698724adf27d23a008fda705f1b588178fffff47,
  .short 105 0x1689ecf1c969c58d69f8dd553c956e09d7776ae01af8f511d5209846affffdd5,
  .short 108 0x104505c3b64fc2f1e4f481ed247fe8375438e6587f61ebfd97013f07affffdc5,
  .short 37 0x23983e7e773300389adae5fb5a79b10a607610cb47bf41594ae1f0502fffff3d,
  .short 111 0xa001e95a335c0565ff026850c6a6264d0fa61d0e3cae2e958e1e5c8affffdb5,
  .short 38 0x13e67cd30093f3e48f943b451719edb6f3e9f186d669df1b3962ed88fffff37,
  .short 114 0x3bb3767901bbdbadaebcb1cf454dc924dbbdd494833d9d51ac28c89affffda5,
  .short 117 0x2dda9eac5e335b490e37b56b5dc0af1cf2b1410a26564152208528de9ffffd96,
  .short 40 0x1d5357506418fd9d15d68a9342642b37dd378c43ac2838450cc297112fffff2d,
  .short 120 0x2795b77e4b1958ad89335a0345ab294a6f72bc828abf383de265cf9f9ffffd86,
  .short 41 0x2b5dcf11fe20dccc7c452e02badd7166143402d94b89056eb958cb2d7fffff28,
  .short 123 0x2150d05037ff5612042efe9b2d95a377ec3437faef282f29a44676609ffffd76,
  .short 126 0x1b0be92224e553767f2aa33315801da568f5b3735391261566271d219ffffd66,
  .short 43 0x170e702250fefb0190d22f2b2a4ea56559f907bc10912f30cea33dd22fffff1d,
  .short 129 0x14c701f411cb50dafa2647cafd6a97d2e5b72eebb7fa1d012807c3e29ffffd56,
  .short 44 0x2518e7e3eb06da30f740d29aa2c7eb9390f57e51aff1fc5a7b3971ee7fffff18,
  .short 132 0xe821ac5feb14e3f7521ec62e55512006278aa641c6313ece9e86aa39ffffd46,
  .short 135 0x83d3397eb974ba3f01d90facd3f8c2ddf3a25dc80cc0ad8abc911649ffffd36,
  .short 46 0x10c988f43de4f8660bcdd3c312391f92d6ba833474fa261c9083e4932fffff0d,
  .short 138 0x1f84c69d87d49086b193592b52a065b5bfba154e53501c46da9b8259ffffd26,
  .short 47 0x1ed400b5d7ecd795723c77328ab265c10db6f9ca145af3463d1a18af7fffff08,
  .short 141 0x2c17b3aea694e6969e651fe11e95d8e600f10515c3576941736c547a8ffffd17,
  .short 144 0x25d2cc80937ae3fb1960c479068053137db2808e27c0602d354cfb3b8ffffd07,
  .short 49 0xa84a1c62acaf5ca86c9785afa2399c0537bfeacd9631d0852648b542ffffefd,
  .short 147 0x1f8de5528060e15f945c6910ee6acd40fa73fc068c295718f72da1fc8ffffcf7,
  .short 50 0x188f1987c4d2d4f9ed381bca729cdfee8a78754278c3ea31fefabf707ffffef8,
  .short 150 0x1948fe246d46dec40f580da8d655476e7735777ef0924e04b90e48bd8ffffce7,
  .short 153 0x130416f65a2cdc288a53b240be3fc19bf3f6f2f754fb44f07aeeef7e8ffffcd7,
  .short 52 0x43fba9817b0f32f01c51cf2e20e13edd03d7a253dcc13f4144532152ffffeed,
  .short 156 0xcbf2fc84712d98d054f56d8a62a3bc970b86e6fb9643bdc3ccf963f8ffffcc7,
  .short 53 0x124a3259b1b8d25e6833c0625a875a1c0739f0badd2ce11dc0db66317ffffee8,
  .short 159 0x67a489a33f8d6f1804afb708e14b5f6ed79e9e81dcd32c7feb03d008ffffcb7,
  .short 162 0x35616c20ded455fb46a00875ff30246a3b6560823629b3c090e3c18ffffca7,
  .short 55 0x2e5f21dce5c890bd351107414b79e6787532dde61bee7b711a07ce6a1ffffede,
  .short 165 0x2a54c8b0eef671e42e928a56df6b02af0f30c92160589130c65380167ffffc98,
  .short 68 0x2355fce63368657e876e3d10639d155c9f35425d4cf32449ce209d8a6ffffe99,
  .short 70 0xf069df6864683b39bfb3e38d30e495be4fa474011fb4e0be36b102f1ffffe8e,
  .short 56 0xc054b2b9e9ecfc2e32f64fa4271d44983fb6c334195d80982bc0cf27ffffed8,
  .short 64 0x1b906c52ac7a88eaa603f50903395500eb77504f492960345fa9c2ad1ffffeae,
  .short 65 0x299ae4144682681a0c7298787bb29b2f2273c6e4e88a2d5e0c3ff6c96ffffea9]

/-- The record `i`.  Behind the listed ones the model has zero, which no function reads. -/
def authDatRecord (i : ℕ) : DatRecord := authDatRecords.getD i (.short 0 0)

/-- All records are valid. -/
lemma authDatRecords_valid : ∀ c ∈ authDatRecords, c.Valid := by decide +kernel

/-- The constants of `auth.dat`, up to the last one that a modelled function reads. -/
def authDat : Constants where
  value i := ((authDatRecord i).toNat : Fr)
  zero := rfl
  two := rfl
  one := rfl
  four := rfl
  three := rfl
  fiftySix := rfl

/-- The records of the file stand for its constants. -/
theorem authDat_represents (i : ℕ) :
    (authDatRecord i).toElement.Represents (authDat.value i) := by
  refine DatRecord.Valid.represents ?_
  rw [authDatRecord, List.getD_eq_getElem?_getD]
  cases hget : authDatRecords[i]? with
  | none => exact ⟨by decide, rfl⟩
  | some c => exact authDatRecords_valid c (List.mem_of_getElem? hget)

/-! ## The tables of `Poseidon` -/

/-- A table of `n` constants is a list of circomlib, if each constant is its entry. -/
lemma table_eq {n : ℕ} {f : ℕ → ℕ} {l : List ℕ} (hlen : l.length = n)
    (hvalue : ∀ i < n, (authDatRecord (f i)).toNat = l.getD i 0) (i : ℕ) :
    (if i < n then authDat.value (f i) else ((0 : ℕ) : Fr)) = (l.getD i 0 : ℕ) := by
  split
  case isTrue hi => exact congrArg Nat.cast (hvalue i hi)
  case isFalse hi => exact congrArg Nat.cast (List.getD_eq_default _ _ (by omega)).symm

/-- The table `POSEIDON_C(2)`. -/
lemma authDat_poseidonC : authDat.poseidonC = Poseidon.constants2.C := by
  have hlen : Poseidon.poseidonC.length = 72 := by decide
  have hvalue : ∀ i < 72, (authDatRecord i).toNat = Poseidon.poseidonC.getD i 0 := by
    decide +kernel
  exact funext (table_eq hlen hvalue)

/-- The table `POSEIDON_S(2)`, of which the file has each number once. -/
lemma authDat_poseidonS : authDat.poseidonS = Poseidon.constants2.S := by
  have hlen : Poseidon.poseidonS.length = 168 := by decide +kernel
  have hvalue : ∀ i < 168, (authDatRecord
      (if i % 3 = 0 then 75 else if i = 167 then 76 else 84 + 2 * (i / 3) + (i % 3 - 1))).toNat =
        Poseidon.poseidonS.getD i 0 := by
    decide +kernel
  exact funext (table_eq hlen hvalue)

/-- The table `POSEIDON_M(2)`. -/
lemma authDat_poseidonM :
    (fun j i : Fin 2 => authDat.poseidonM (2 * j + i)) = Poseidon.constants2.M := by
  have hvalue : ∀ j i : Fin 2,
      (authDatRecord (75 + (2 * j + i))).toNat = Poseidon.poseidonM j i := by
    decide +kernel
  funext j i
  exact congrArg Nat.cast (hvalue j i)

/-- The table `POSEIDON_P(2)`. -/
lemma authDat_poseidonP :
    (fun j i : Fin 2 => authDat.poseidonP (2 * j + i)) = Poseidon.constants2.P := by
  have hvalue : ∀ j i : Fin 2, (authDatRecord
      (if (2 * j + i : ℕ) % 2 = 0 then 75 + (2 * j + i) else 82 + (2 * j + i) / 2)).toNat =
        Poseidon.poseidonP j i := by
    decide +kernel
  funext j i
  exact congrArg Nat.cast (hvalue j i)

/-- **The tables that the code reads from `auth.dat` are those of circomlib.** -/
theorem authDat_poseidon : authDat.poseidon = Poseidon.constants2 := by
  rw [Constants.poseidon, authDat_poseidonC, authDat_poseidonS, authDat_poseidonM,
    authDat_poseidonP]
  rfl

/-- `Poseidon_69_run` computes the hash of `circuits/auth.circom`. -/
theorem authDat_hash : authDat.hash = Poseidon.H := by
  funext x
  rw [Constants.hash, authDat_poseidon, Poseidon.H]

end AuthCpp
