import ZkpAuth.Bn254
import ZkpAuth.Circomlib.Poseidon

/-!
# The Poseidon constants at width two

The entries `t == 2` of `circomlib/circuits/poseidon_constants.circom`, the only ones that
`Poseidon(1)` reads.

## Main definitions

* `Poseidon.constants2` — the tables as one record.
* `Poseidon.H` — the function computed by `Poseidon(1)`.
-/

set_option relaxedAutoImplicit false
set_option autoImplicit false

namespace Poseidon

open Bn254

/-- `POSEIDON_C(2)`. -/
def poseidonC : List ℕ := [
  0x9c46e9ec68e9bd4fe1faaba294cba38a71aa177534cdd1b6c7dc0dbd0abd7a7,
  0xc0356530896eec42a97ed937f3135cfc5142b3ae405b8343c1d83ffa604cb81,
  0x250f5116a417d76aaa422952fcc5b33329f7714fc26d56c0432507fc740a87c4,
  0x264065ad87572e016659626c33c8213f7a373b9b8225a384f458d850bb4a949f,
  0x2bb8e94ad8d8adca6ce909ff94b8750729b294e4400376da39e33fda24bd42af,
  0x19051065d05d861ec813c15291d46a328f6201b21ad5d239d4f85fbb09a5dbae,
  0x245bd0617aa449618f5bd4550aac7b8e08d4d1c017165943cdf4776cdff3434a,
  0x9fb1a1118074ff79d8acbf5b02131e048a1570155e0f2b1c36ad091d491a88f,
  0x234ab504bbae8198972741952f78b7eb018ea192f05e54c1484ab8973ff66d88,
  0x1f66e509b84c355ae3d4c3513a282fd48f9c8c6439f42a7835fbcfe0f2a324c,
  0x1b22f5d69d725e6002cf00dd9ee62d1a5af0efdc4910f54127a920ccc43f91fa,
  0x252b55edead135f852968b7f1c4f490fa659ecd5b47a78a7db91f65a6dfc23f,
  0x1773ae2e1637c92ad0677c2a047fea8eca4b53303f21871f6892a2c0487d7ff1,
  0x2d57b02906cd0ab82a79e76faeef6f87666eac093cf7715645d5ec9f7ac732f5,
  0xa16f3a62824b281e8b2ddb8fc391a498fb061317faffa03696f834596313d93,
  0x1666f525f7f4b6988d2a37834ab747eae0587757b788eb7f1e26b08e36a08591,
  0x5da44f8e0a3b8bb13231f0ca25b50b57f5c82128e1dfec3e541d912ebe17b76,
  0x9a39ba9993303ba191bac8bdb3e0144dbfb5f39624cdd9524dc7861633bc95a,
  0x6c0fb824a19202d30ee6b418c0029e100e85a6d158f9f2a828dfd2ed0920a68,
  0x387d8e056b2b176a9776b4492cb3b418adc660627e52bb3324283bf9522395d,
  0x147a1af82036ef5b28a7a37bea40d6ac3013cf1b62358396bf7156f5c2dc9684,
  0x3038d92060daeaaf1bd0482bd3f0613d88e8dff90a7a0525f9227e4cb7c6f81b,
  0x72940aa1d538a5a39a323f9e5d65616cf6c223339006f9789a97245532908f5,
  0x2d3d604949f4e14c70b8a879aedec49b3a367ba216af048f464ed6f15e2b9023,
  0x225b9e4f35c7549f80774c2b4d18309b2dcf7c7287b982e49746a176641e73c5,
  0x1ea781288fdf13b2190095a2344828e37dfe81c75a09709f0d139bbbf6c70414,
  0x8e96c3e7e8de4432b202405458468b90dc6890d4cee128b3502e5b6cb4aeeeb,
  0x5b43da7c8aa29af6dcaae57d070b49d29ce889a64a4ac183e85d55b366c805f,
  0xbec98a034e3b8af7ba4861f1ad5a48dcef7c996e7a51c7cdde724d8f610e52,
  0x2eb67ccfa29e2b422b9f84a5d0575fc435b30fcae303039480be384ee4ebe72a,
  0x102bbdc21a3f147bf04eedee5d70bd084a7105c631c86ecd2c4e8749a13915ca,
  0x274bc16c88721babfd5bbe8d8562c1bf127ae38915280fbb8e3115cad3582f79,
  0x185cece417549b25283de04511f769101c8850b409d4928ab831611351bd9938,
  0x13c73fb043f7e978bc9cfb55c7faacb4f4c823674abe17737059ac0a32c36007,
  0x24b3a1d83308742b360c9c60595673e201cdd4cef5a4145c933c4e5969481d70,
  0x18b5ae94df9ec97aaa2a8f0f42425bcccdc8266a070f866ef0f48d7a3744398b,
  0x20eb398cb958cc2ccc7cb1fac38501abbe38169b2d8522d9e5f099f2d5905cb4,
  0x1e588dd3ec8b0d252c2c7c0c78a02b22bbbad1f4dcaa2e78a8b8eef2f4e29344,
  0xf8bf3bd6c22ba3b1bf3ab2e3fb40818cd4217ffbaf294ca42331d4e3043a0a6,
  0x388c9fcf30fc2841d648f46bad01dd10bee9dc184d25eabc9f617021109cec3,
  0x2bb7f397c5941ac67befa8b232f15c8853dac263da793555441a90cec83b6454,
  0x17f389b52f9ea7a98874a4a31ef6a7beb43fb17db0e499250bb3f0181c59fb21,
  0x3a2090eacb897a31fb10561d560a9aeec24b7ad14d17b145f20c875a0b28c7c,
  0xc398534f0eb580f1fe4bf64553389e67cca4714399430e09619dcbee17ba099,
  0x7095ac9fda46afa7f181259e3635feffa7f11ee63f3ee777a5cebf4822328c4,
  0x2046f7cf1c8f13ef2b69cbc8bc0d5d809f82568abe2b33d1cd060958b1ced683,
  0x2c274136a5de2849de6e7f92f9097296501acb68d56138fbcb660c4cb0f69107,
  0x1c4d5178acb5c6b6eceef23afc6f16ec7b0383094cb6467e8d0f4507b3cf74c3,
  0x65b1447d0d64ceced116785b92c63a6a7dd9701507dcbe8b909325e28f7b8d3,
  0x2265d7e244881220c81a193d979330409c9bfa333438951340e023e7b72a1961,
  0x15b12b355af7e05637a1c76e67f9cec6fca8a6449b37669f6850502256b30aba,
  0x1a1522fecc6ae028e4d3e3029497b88f35c2b48c687af168ec2582d9075b4387,
  0x22f56e79e81b7496e472a641a053c414bcc53b0a9350e2589240803076f58f26,
  0x202ddb66d0988994e7aabad692ceac4e2324672a17ab8417d1ee278afd17fd0c,
  0x12b0701e8813c5b21a8e30208f8f1158b96cd428ae77bdea72f84510f73edfce,
  0x1e63fd20e706e1407c8838ceb26b84c9fe693fdde0eb1e1a9df7e84e53eeee7e,
  0x20a16c5a86256deffd15af174c39f9d9aa11500676ac7e570088280dd1896259,
  0x1c8f8bf8e153da55ad5aca2eaaee38da563e0435c0f2f37c27558fb9bae0a3eb,
  0xd7732687bb7bf5f3aabcfdcc4fbb67e159c1983213e416c3880124fddf187c9,
  0xcdd04475a86999a2edcbbbf8264b195e108b3b60b6475d835f6ccef9e2f6865,
  0x2fe65586cd4e754b4c63a88c2ed3f9ba0e3bfa43f547b41153560c214fe3cbcd,
  0x503cf963c8273604e659128ec29261f62399815d98c56dbf4f2837c727ad4d9,
  0x1ee48ea27839061b78379936f6d97ca9400b393ef5fdf38ef1475c8742cb334c,
  0x1a423f8d8fc892b22d7cd5bf0197c575c579e83563d04859d73b2c1c5c0413f9,
  0x69a0da50133e9952f00e61778972a7be0e8d8ab76c95616ae465636abb97ec7,
  0x1bf7879dd42f2cbb91c65a0976356f67964c2f94dfbf0e44cf2b9909165d8614,
  0x1b23dccf485822065c8fc0afe610be7164e25056267f6c4a805fffd4547a0b98,
  0x2ebe90d6f6fdca420e0c2e004ce5c5a4409e564c9c4f3671e3011f627bec7c2e,
  0x167cd6930535a816dfebe81d20c376e77687760f3a2fa0da290b2f4d6c6863f7,
  0x8865c10f4a633c54ccc8b68b79df285f19f1210374cc64e3c8a966d4f90264b,
  0x1de902fbc0bf01951ca25abb39d78894721b37e071851b03a72cc6b833b7893b,
  0xe3eca007699dd0f852eb22da642e495f67c988dd5bf0137676b16a31eab4667]

/-- `POSEIDON_S(2)`. -/
def poseidonS : List ℕ := [
  0x66f6f85d6f68a85ec10345351a23a3aaf07f38af8c952a7bceca70bd2af7ad5,
  0x1fd20dcb58503896fd52998d6a5be6f12ec33b3cbd590c793e45de825ff8cb5f,
  0x8c8295df0ba11861e97f0cdde8f202a7096c1e6452d33d64a11b5be4e0a1efb,
  0x66f6f85d6f68a85ec10345351a23a3aaf07f38af8c952a7bceca70bd2af7ad5,
  0x2458ee6d7c526073d165d2b08b95cf8947e20e05a76bc12b401b996421e89835,
  0x18c235e6e723390aa65baf06ffa557829f78a2fe1fbfb44eef84e938209c92f9,
  0x66f6f85d6f68a85ec10345351a23a3aaf07f38af8c952a7bceca70bd2af7ad5,
  0x1868e106689f8ea2e9c561b4b192899d07b52e58595c393436c37df24976a584,
  0x2d5161804f0ec6445cb8904ad3e8e9ec21153350df4075c9cbe840b7b609ca92,
  0x66f6f85d6f68a85ec10345351a23a3aaf07f38af8c952a7bceca70bd2af7ad5,
  0x3510550ddf6292355c690f03b9b815aab2dc3f4914612da7ecb79ddcf7b0b90,
  0x9a2e7bb3b278a1d5f264a26345ad8365efe0058403d8a52909cf2d5f6ee6170,
  0x66f6f85d6f68a85ec10345351a23a3aaf07f38af8c952a7bceca70bd2af7ad5,
  0x13dd4148c491a166b015a7a4233f4e488ae94a0e6439be66fe149b50b55759c0,
  0x1d2d3b261f5beb3fc010f42ec3825649d90150eee4ce55dc9f86ddf110295550,
  0x66f6f85d6f68a85ec10345351a23a3aaf07f38af8c952a7bceca70bd2af7ad5,
  0x221b4477678dad4e2abcabb47eb5e7a4129190b3855ae4eecd8ba68643ff77e5,
  0x16b76448e9855f165f2043f5f09bedf1830a4998ff45ebc25f1d40e8e8fcd6e4,
  0x66f6f85d6f68a85ec10345351a23a3aaf07f38af8c952a7bceca70bd2af7ad5,
  0x2a10b6a2cbae9578142cf66104b69e448eae6d3bd53ac8602363460e2286c92d,
  0x2db84dba4a9d96cebe94dfb1d59edfa58ccfa871b9c067c522e31949b69f2bec,
  0x66f6f85d6f68a85ec10345351a23a3aaf07f38af8c952a7bceca70bd2af7ad5,
  0x1ca9bbf26402238296ad897ec1a55b4fc273cf20c1f68f03d5c149be890e7b60,
  0x283d37fa5e35d25c83d1b9d34ecb00cd03848ca730ace52f367e0d7b5fde30d6,
  0x66f6f85d6f68a85ec10345351a23a3aaf07f38af8c952a7bceca70bd2af7ad5,
  0x349057941b141ceea5a063a0ff8ab221271e618a174e5d8009ab5f9c791d960,
  0x1af2e1d98c3c09908503883d3b9ed50fe8958eb1e5d6538016c344d40070efc2,
  0x66f6f85d6f68a85ec10345351a23a3aaf07f38af8c952a7bceca70bd2af7ad5,
  0x5b7bddacf4522b0aa3082e2c05448962743d0023bb6402291f592e6c1da4679,
  0x1fceeccf337e8a903cf6a0c21a6445da7ff8c4a0bc78909c7e704131c8a35241,
  0x66f6f85d6f68a85ec10345351a23a3aaf07f38af8c952a7bceca70bd2af7ad5,
  0x2f30a25f4d843e28afdd850f31d1920ee058dfb6d91c322fc960473e917a6768,
  0x1a55160bf49a4936bcc59162617026194574a89e5857751b68f3c08f7c07ce87,
  0x66f6f85d6f68a85ec10345351a23a3aaf07f38af8c952a7bceca70bd2af7ad5,
  0x19c66ee887ab4763b17573b6ad192b7df1af24f54761998b03b342b95709041e,
  0x1a82828b7f87eba7f5f8624b31e1115506ab3e723266777b3789c9104f9c781e,
  0x66f6f85d6f68a85ec10345351a23a3aaf07f38af8c952a7bceca70bd2af7ad5,
  0xf506d3199d96083de9fc4e71b250825e84a242d81ae3a81d99debc7faed3385,
  0x1cac7482d91faef657db9072a97567ff172374d99987a8b24b2c04472aab9f83,
  0x66f6f85d6f68a85ec10345351a23a3aaf07f38af8c952a7bceca70bd2af7ad5,
  0x249b26b1d4e333b23f3192f0e4f52884ee63d489ee153ecc3216939a72848150,
  0x13d1aeb10b225e2a8b97131154407d1bf145972dcd3a0073339dca336180dfb1,
  0x66f6f85d6f68a85ec10345351a23a3aaf07f38af8c952a7bceca70bd2af7ad5,
  0xb90f72b7fcf867eb2e0f9400787d1dd52720cbc14a7095784e4116624d16df3,
  0x25e346edd8dd55142abd2135951398230f0c8d08bc5c365c5a6cd70011a8f39,
  0x66f6f85d6f68a85ec10345351a23a3aaf07f38af8c952a7bceca70bd2af7ad5,
  0x263003b8ed502577c6427b0b4589ef6ceb87b4e21b7c424e587f2630a7b868a2,
  0x2d92ef6b8bdc53dd1b6c5b1c92e5a8248eb9c12255b910ff89c09961ec12ead7,
  0x66f6f85d6f68a85ec10345351a23a3aaf07f38af8c952a7bceca70bd2af7ad5,
  0x2eb36b6d0bfc593a8d6d9459a7af04f0b15bcae4181bbb123543870c11316681,
  0x1e48bb591146f461c1d2f085f3979139e37f4a5c2354952c833b2791f59034e0,
  0x66f6f85d6f68a85ec10345351a23a3aaf07f38af8c952a7bceca70bd2af7ad5,
  0xe759913751418871f0351ee180ca466cf8a03f541079c1b51bb001550d8162a,
  0x1e45e194b16936c5b1f81c72eb0fe8c62e859c4661b14b7e327503cf49eca55b,
  0x66f6f85d6f68a85ec10345351a23a3aaf07f38af8c952a7bceca70bd2af7ad5,
  0x28c8b58c9e4cfb830a51af4529318b6269c4f6ac1867ed1174ce4aefc57fbeb3,
  0x255b293fcb1be27d9e5aafd4cd28c26746fc3520889367eed1355c2c41b93016,
  0x66f6f85d6f68a85ec10345351a23a3aaf07f38af8c952a7bceca70bd2af7ad5,
  0x1db1367a8e37c5597835365bbfa66f6ecf40da775a54c35d5c94da70415544fe,
  0xcdd97951c2f0b885edc683b9db74f08df61286578a69989a9fed7ca34c5b4ce,
  0x66f6f85d6f68a85ec10345351a23a3aaf07f38af8c952a7bceca70bd2af7ad5,
  0xe4d4e42cacb9fa6745c6dd3630ec5a4cca8a912b7ec28576ab3ba29c57306c9,
  0x2141a925c279e4c4e351641744750d4702d90ef2137d1905dada0bae3c7b3af6,
  0x66f6f85d6f68a85ec10345351a23a3aaf07f38af8c952a7bceca70bd2af7ad5,
  0x8f9f9b3abc79ed89c20597cfbfe49021119cc50648ce401dc50cb042a54d167,
  0x6af6c072313d868cd945c9f0eb7d4eadb24c8d4763fa042952b99353df2b236,
  0x66f6f85d6f68a85ec10345351a23a3aaf07f38af8c952a7bceca70bd2af7ad5,
  0x8b43c97bf4a40b4f376d1fa0c5e6e6955cbf9ba301f878ed3eae4ac812b79d1,
  0x11e0e607ac6781ca34a714e6c5b7a4f839852377446520032420e2abe16115a7,
  0x66f6f85d6f68a85ec10345351a23a3aaf07f38af8c952a7bceca70bd2af7ad5,
  0x2dd7f0e1b303f425cb7e6b1c30ca428b3bff751e7b651152eb4de008b2c00da6,
  0x107d7f92d1c6a24068b917120f993ae3ee84349aaadb71eaa4128b349812dda8,
  0x66f6f85d6f68a85ec10345351a23a3aaf07f38af8c952a7bceca70bd2af7ad5,
  0x10ab9e8e4ec9ad5fdb1166c64ed2fc3223c7e16dd982f66dcd820a7861ae1463,
  0x3000d3b3ddb3fb864ccc729984468a7317397713303544a84d7de1d209d25cb1,
  0x66f6f85d6f68a85ec10345351a23a3aaf07f38af8c952a7bceca70bd2af7ad5,
  0x17610359e624e7feb3eede8099a1dc45c4a0c6b2debc2dc8f200fa27a0da6ebd,
  0x2affce5b7a7d8c5aac04f6c2708794cd01a8439b65d74df5982d24ad2a944eb8,
  0x66f6f85d6f68a85ec10345351a23a3aaf07f38af8c952a7bceca70bd2af7ad5,
  0x2d439fbefe8d2b65ed32658bd21fc5604408d5fb69e1f64965e5895ca61c6e09,
  0xb51cc2a1b1c329fd72a286d4938540db3cfc4320de363a3f68a7935cd193ab9,
  0x66f6f85d6f68a85ec10345351a23a3aaf07f38af8c952a7bceca70bd2af7ad5,
  0x1468ea2868d31f7ebafe78af8c24656a3185963272f34c51d5e2695c43bd3247,
  0x29553949324f27f4fa7bd734920e9be7b662a0ec5797fdd4ed3fe19464879b95,
  0x66f6f85d6f68a85ec10345351a23a3aaf07f38af8c952a7bceca70bd2af7ad5,
  0xd9780ee7d395f7c977fd4b86329f6cd720047a7f9d1672d18d2cfb428343afa,
  0x210a098afd451fca3997860e220106c7487f4716831dfff78036de18f17cb31d,
  0x66f6f85d6f68a85ec10345351a23a3aaf07f38af8c952a7bceca70bd2af7ad5,
  0x1cedcfe2751b360e73d6ef5af88cd5b75a2b2d97c571889a0dda87a0dd90ad81,
  0x22719f26e16723c1bd45a619e91836c340a304f3648672f90de2b047880aee03,
  0x66f6f85d6f68a85ec10345351a23a3aaf07f38af8c952a7bceca70bd2af7ad5,
  0xae0cec959c4c7859f670f19c7490f8eef6ad66346e04613c1350597be000be2,
  0x177560de731482bdb7316c238bc38f20a16cd03edda2e0393b1c515ec64b0727,
  0x66f6f85d6f68a85ec10345351a23a3aaf07f38af8c952a7bceca70bd2af7ad5,
  0x1f19a267da0b8fc2b4850a4f458add5514edf0aad6f7a7f175aef0b98e816a40,
  0x1da77cdeff9cf822b54509031ea2888f6f398051ae1870afd3770e7724c09f31,
  0x66f6f85d6f68a85ec10345351a23a3aaf07f38af8c952a7bceca70bd2af7ad5,
  0x2d1e17aaaa96743665a869970255c267ba338cfd43ec9b33ecaa764f48f17a8,
  0xc376a8ff1da39dec980316ea26ef66fae5c86877a8f82266c14670024329d12,
  0x66f6f85d6f68a85ec10345351a23a3aaf07f38af8c952a7bceca70bd2af7ad5,
  0xbb856048ef43a77b39560adeb3c7a9a783db5cad8e3f422495a69c56680a79,
  0x1d81808a3c73be1bb2c99b6403f3ac4a532c88d29ad652cbb20061656006c19a,
  0x66f6f85d6f68a85ec10345351a23a3aaf07f38af8c952a7bceca70bd2af7ad5,
  0x15e52ae83a9db363d24cc5900df8ff0b81e445d4409a0e2aafd3223c354add62,
  0x2aa2fc03cb5f72e237f7d88ef66f765a159be533354ffb88751abb8885203ad4,
  0x66f6f85d6f68a85ec10345351a23a3aaf07f38af8c952a7bceca70bd2af7ad5,
  0x10afedad881a1da7dace5c69546d0890bc35f41992b1062a7c7789b03ac932c0,
  0x1d18193701979ad24042446e947dfedfad22a6e7d4f6bde875fe2d8c882c858a,
  0x66f6f85d6f68a85ec10345351a23a3aaf07f38af8c952a7bceca70bd2af7ad5,
  0x2f0b8457690e4d9770beb0300a09fc7001cd417061e826bc450dd96d7b24f36,
  0xdc31897d61d70e16870e0b02b9776bc53b8b9848be3062f8da18ff9d981effb,
  0x66f6f85d6f68a85ec10345351a23a3aaf07f38af8c952a7bceca70bd2af7ad5,
  0x203c94bb7694f9cdad3a14a7603e3cb69c141200fd46bdc9ebb0d5d73663525,
  0x2b778a231f21f8a6cdaa3c84372933e610eb985dcc81af9926fe8b09f1afc81f,
  0x66f6f85d6f68a85ec10345351a23a3aaf07f38af8c952a7bceca70bd2af7ad5,
  0x2c8a0376c766055e6a9d5272a2466a28faa7e359db111e84d98b2138c8c9d5d2,
  0x2ffda33f5b85a4fde16ba590ae0cd49fce4ad01e095f94f49138fe44aaa8c778,
  0x66f6f85d6f68a85ec10345351a23a3aaf07f38af8c952a7bceca70bd2af7ad5,
  0x318af53cfd822ec2a7f4d40614f72fc6cb27f44067fb58d15789bbe15444844,
  0xd24997465c5b23d4e7436a4ecef2f91ce9f8910b6fa8a4a3ba6f884bd7206cc,
  0x66f6f85d6f68a85ec10345351a23a3aaf07f38af8c952a7bceca70bd2af7ad5,
  0x1ea39e4d9edebf65d648e42880b396a6becfa66b3c5e47ff9a33577a3d2a658,
  0x15e4e016c94a026fd9ede9bdcf11268f7735cf5ebdbdd4a092fda1ee8b50f2ff,
  0x66f6f85d6f68a85ec10345351a23a3aaf07f38af8c952a7bceca70bd2af7ad5,
  0x2ef185c4b1cdb7072a82fd43fe4bb145c4dbd04973fb3ef76e757b00392eac9d,
  0x15cedc8a4ef6f7017d1dd3d92255beb54f1d7d1e3bb0204cb07ab81c71435902,
  0x66f6f85d6f68a85ec10345351a23a3aaf07f38af8c952a7bceca70bd2af7ad5,
  0xdbf148ee8983db0c117b111270f1c2c8219565733684494eaf5ce0645e5749a,
  0x2842f44ddc05dbd5b319b1efe6b3eabced380b99ffc42dfb08805ea2b4c48aab,
  0x66f6f85d6f68a85ec10345351a23a3aaf07f38af8c952a7bceca70bd2af7ad5,
  0x1aa07e7ffa4a036f1b7efb2e124e75028426fdf5f1e4fb8bb62e1ebf3298af2c,
  0x1e5a2abded8c7022a8ba97ea683b605d09f017fd43e92296656561eb96d25d32,
  0x66f6f85d6f68a85ec10345351a23a3aaf07f38af8c952a7bceca70bd2af7ad5,
  0xacf3ab02c018573bc3d36b0cb73de6df11e8cc1dea223e98a2a0cfbc028d2af,
  0x1bab48ad2c31dcec5fcc6df1f02dc4164f949202122673b06105f7ff1beabb29,
  0x66f6f85d6f68a85ec10345351a23a3aaf07f38af8c952a7bceca70bd2af7ad5,
  0x1a36af3ad1c61cddc06a2a4c6967dc004b589a4a8b358ded11a38cce6a7f31c,
  0x125e0e822514cf49536fa643a66e1d2fa6788cb5b4805c9cd3cb69a584e0d8d2,
  0x66f6f85d6f68a85ec10345351a23a3aaf07f38af8c952a7bceca70bd2af7ad5,
  0x85be8486ecb3dbf71d63940d8d689f9b142434a14d5d4f8c93d7d0f17bfcbd3,
  0x275651360d88063b2feead8bc71ae9c002d5db9822ab63b058f11e0d506b17e3,
  0x66f6f85d6f68a85ec10345351a23a3aaf07f38af8c952a7bceca70bd2af7ad5,
  0xf7eb245596d9ac5ecc21446ed94c80289db1e1f9f620c18f7815b247b228a6f,
  0x221862a04a00f406bc67f7677ab459c9d887c8bb88091513f0fc2fb103ad549c,
  0x66f6f85d6f68a85ec10345351a23a3aaf07f38af8c952a7bceca70bd2af7ad5,
  0x1bd575603b7085afcf0a588a5fadf8705cda7eb1d4ab7e70137dbd47fc26e3a2,
  0x146d1d176245ff772db8575d986a82e931079de61e67184c4158a6f62db446f1,
  0x66f6f85d6f68a85ec10345351a23a3aaf07f38af8c952a7bceca70bd2af7ad5,
  0x2202ec1e7fd85c4749393664f024d578d392d59cb12a42e2ef4fa728da4cd3a,
  0x1c0e72693a0e12bff0ab3e12a1203c846b5dfdb9dd5ba26a7309c6970371421,
  0x66f6f85d6f68a85ec10345351a23a3aaf07f38af8c952a7bceca70bd2af7ad5,
  0x2b3d8733bb4872b6cbb0bd83378163ab14a585dbf5ad9758c07948de056071e0,
  0x185d12aa30aed1a0575b9d3dcee6332f4fa34643a429cfdd8de0fdc87a29640e,
  0x66f6f85d6f68a85ec10345351a23a3aaf07f38af8c952a7bceca70bd2af7ad5,
  0x1b394227301f28bee29bd3dfc35dfcc8e1c60ec6dd944dd33593a9a77675f641,
  0x15b1cfd522bdc418f6c08a3deb114a4ff48854b4a496537d41eb3a325f2265e7,
  0x66f6f85d6f68a85ec10345351a23a3aaf07f38af8c952a7bceca70bd2af7ad5,
  0xbca3aef46833e8a30a9db0a16b59abc619800d2da15da01dd5a0713ff4cbbb8,
  0x529062596e51b8ca2c2f8c7cf4adff0853150015e2e6b4ce7af212500f5e6ca,
  0x66f6f85d6f68a85ec10345351a23a3aaf07f38af8c952a7bceca70bd2af7ad5,
  0x2fda517f4261325a7366a45da1e847cd150d022be2982eb6105dcfc31fdef60,
  0x1fec5a09cea4d25e5b7ff9d2fbab64d264db993e8d8629b7154a1539d12dd1cf,
  0x66f6f85d6f68a85ec10345351a23a3aaf07f38af8c952a7bceca70bd2af7ad5,
  0x2d87776eef5dfabbe5605094751af17b831717fa3f8e01943b74d1a9a42eb1bb,
  0xd257a437910f3995aebd0afb9be584967afa4188c4684958f68c39f9f01ff19,
  0x66f6f85d6f68a85ec10345351a23a3aaf07f38af8c952a7bceca70bd2af7ad5,
  0x98f0aa06092ed2cbcbac004f90799e6e1c32fc24a9f0b6066f8d7289716aee4,
  0xcc57cdbb08507d62bf67a4493cc262fb6c09d557013fff1f573f431221f8ff9]

/-- `POSEIDON_M(2)`. -/
def poseidonM : Fin 2 → Fin 2 → ℕ := ![
  ![0x66f6f85d6f68a85ec10345351a23a3aaf07f38af8c952a7bceca70bd2af7ad5,
    0xcc57cdbb08507d62bf67a4493cc262fb6c09d557013fff1f573f431221f8ff9],
  ![0x2b9d4b4110c9ae997782e1509b1d0fdb20a7c02bbd8bea7305462b9f8125b1e8,
    0x1274e649a32ed355a31a6ed69724e1adade857e86eb5c3a121bcd147943203c8]]

/-- `POSEIDON_P(2)`. -/
def poseidonP : Fin 2 → Fin 2 → ℕ := ![
  ![0x66f6f85d6f68a85ec10345351a23a3aaf07f38af8c952a7bceca70bd2af7ad5,
    0x20e3e914631964e394d269ae59f17efee3fecee512cbb163d32cc760be574bd6],
  ![0x2b9d4b4110c9ae997782e1509b1d0fdb20a7c02bbd8bea7305462b9f8125b1e8,
    0x10a44ed9dd9ce568563394632833d8633690d329ae737c8c7220a9b197ee3f46]]

/-- The constants that `PoseidonEx(1, nOuts)` reads, with `N_ROUNDS_P[0] = 56`. -/
def constants2 : Constants Fr 2 where
  nRoundsP := 56
  nRoundsP_pos := by decide
  C i := ((poseidonC.getD i 0 : ℕ) : Fr)
  S i := ((poseidonS.getD i 0 : ℕ) : Fr)
  M j i := ((poseidonM j i : ℕ) : Fr)
  P j i := ((poseidonP j i : ℕ) : Fr)

/-- The function computed by `Poseidon(1)`. -/
def H (x : Fr) : Fr := hash constants2 fun _ => x

end Poseidon
