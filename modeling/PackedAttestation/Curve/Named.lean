import PackedAttestation.Curve.Binary
import PackedAttestation.Oid

/-! # Named curves

The curves that object identifiers name: those of ANSI X9.62, SECG and WTLS, those of the
Brainpool, and SM2.  Some of them have two identifiers.
-/
namespace PackedAttestation

namespace Curve

/-- The curve P-256. -/
def p256 : Curve where
  p := 0xffffffff00000001000000000000000000000000ffffffffffffffffffffffff
  a := 0xffffffff00000001000000000000000000000000fffffffffffffffffffffffc
  b := 0x5ac635d8aa3a93e7b3ebbd55769886bc651d06b0cc53b0f63bce3c3e27d2604b
  n := 0xffffffff00000000ffffffffffffffffbce6faada7179e84f3b9cac2fc632551
  base := .affine
    0x6b17d1f2e12c4247f8bce6e563a440f277037d812deb33a0f4a13945d898c296
    0x4fe342e2fe1a7f9b8ee7eb4a7c0f9e162bce33576b315ececbb6406837bf51f5

/-- The curve SM2, whose keys are of a kind of their own. -/
def sm2 : Curve where
  p := 0xfffffffeffffffffffffffffffffffffffffffff00000000ffffffffffffffff
  a := 0xfffffffeffffffffffffffffffffffffffffffff00000000fffffffffffffffc
  b := 0x28e9fa9e9d9f5e344d5a9e4bcf6509a7f39789f515ab8f92ddbcbd414d940e93
  n := 0xfffffffeffffffffffffffffffffffff7203df6b21c6052b53bbf40939d54123
  base := .affine
    0x32c4ae2c1f1981195f9904466a39c9948fe30bbff2660be1715a4589334c74c7
    0xbc3736a2f4f6779c59bdcee36b692153d0a9877cc62a474002df32e52139f0a0

/-- The curves over prime fields, with an identifier each. -/
def named : List (Oid × Curve) :=
  [(.x962Prime 7, p256),
   (.secg 6,
    ⟨0xdb7c2abf62e35e668076bead208b,
     0xdb7c2abf62e35e668076bead2088,
     0x659ef8ba043916eede8911702b22,
     0xdb7c2abf62e35e7628dfac6561c5,
     .affine
       0x9487239995a5ee76b55f9c2f098
       0xa89ce5af8724c0a23e0e0ff77500⟩),
   (.secg 7,
    ⟨0xdb7c2abf62e35e668076bead208b,
     0x6127c24c05f38a0aaaf65c0ef02c,
     0x51def1815db5ed74fcc34c85d709,
     0x36df0aafd8b8d7597ca10520d04b,
     .affine
       0x4ba30ab5e892b4e1649dd0928643
       0xadcd46f5882e3747def36e956e97⟩),
   (.secg 28,
    ⟨0xfffffffdffffffffffffffffffffffff,
     0xfffffffdfffffffffffffffffffffffc,
     0xe87579c11079f43dd824993c2cee5ed3,
     0xfffffffe0000000075a30d1b9038a115,
     .affine
       0x161ff7528b899b2d0c28607ca52c5b86
       0xcf5ac8395bafeb13c02da292dded7a83⟩),
   (.secg 29,
    ⟨0xfffffffdffffffffffffffffffffffff,
     0xd6031998d1b3bbfebf59cc9bbff9aee1,
     0x5eeefca380d02919dc2c6558bb6d8a5d,
     0x3fffffff7fffffffbe0024720613b5a3,
     .affine
       0x7b6aa5d85e572983e6fb32a7cdebc140
       0x27b6916a894d3aee7106fe805fc34b44⟩),
   (.secg 9,
    ⟨0xfffffffffffffffffffffffffffffffeffffac73,
     0x0,
     0x7,
     0x100000000000000000001b8fa16dfab9aca16b6b3,
     .affine
       0x3b4c382ce37aa192a4019e763036f4f5dd4d7ebb
       0x938cf935318fdced6bc28286531733c3f03c4fee⟩),
   (.secg 8,
    ⟨0xffffffffffffffffffffffffffffffff7fffffff,
     0xffffffffffffffffffffffffffffffff7ffffffc,
     0x1c97befc54bd7a8b65acf89f81d4d4adc565fa45,
     0x100000000000000000001f4c8f927aed3ca752257,
     .affine
       0x4a96b5688ef573284664698968c38bb913cbfc82
       0x23a628553168947d59dcc912042351377ac5fb32⟩),
   (.secg 30,
    ⟨0xfffffffffffffffffffffffffffffffeffffac73,
     0xfffffffffffffffffffffffffffffffeffffac70,
     0xb4e134d3fb59eb8bab57274904664d5af50388ba,
     0x100000000000000000000351ee786a818f3a1a16b,
     .affine
       0x52dcb034293a117e1f4ff11b30f7199d3144ce6d
       0xfeaffef2e331f296e071fa0df9982cfea7d43f2e⟩),
   (.secg 31,
    ⟨0xfffffffffffffffffffffffffffffffffffffffeffffee37,
     0x0,
     0x3,
     0xfffffffffffffffffffffffe26f2fc170f69466a74defd8d,
     .affine
       0xdb4ff10ec057e9ae26b07d0280b7f4341da5d1b1eae06c7d
       0x9b2f2f6d9c5628a7844163d015be86344082aa88d95e2f9d⟩),
   (.secg 32,
    ⟨0xfffffffffffffffffffffffffffffffffffffffffffffffeffffe56d,
     0x0,
     0x5,
     0x10000000000000000000000000001dce8d2ec6184caf0a971769fb1f7,
     .affine
       0xa1455b334df099df30fc28a169a467e9e47075a90f7e650eb6b7a45c
       0x7e089fed7fba344282cafbd6f7e319f7c0b0bd59e2ca4bdb556d61a5⟩),
   (.secg 33,
    ⟨0xffffffffffffffffffffffffffffffff000000000000000000000001,
     0xfffffffffffffffffffffffffffffffefffffffffffffffffffffffe,
     0xb4050a850c04b3abf54132565044b0b7d7bfd8ba270b39432355ffb4,
     0xffffffffffffffffffffffffffff16a2e0b8f03e13dd29455c5c2a3d,
     .affine
       0xb70e0cbd6bb4bf7f321390b94a03c1d356c21122343280d6115c1d21
       0xbd376388b5f723fb4c22dfe6cd4375a05a07476444d5819985007e34⟩),
   (.secg 10,
    ⟨0xfffffffffffffffffffffffffffffffffffffffffffffffffffffffefffffc2f,
     0x0,
     0x7,
     0xfffffffffffffffffffffffffffffffebaaedce6af48a03bbfd25e8cd0364141,
     .affine
       0x79be667ef9dcbbac55a06295ce870b07029bfcdb2dce28d959f2815b16f81798
       0x483ada7726a3c4655da4fbfc0e1108a8fd17b448a68554199c47d08ffb10d4b8⟩),
   (.secg 34,
    ⟨0xfffffffffffffffffffffffffffffffffffffffffffffffffffffffffffffffeffffffff0000000000000000ffffffff,
     0xfffffffffffffffffffffffffffffffffffffffffffffffffffffffffffffffeffffffff0000000000000000fffffffc,
     0xb3312fa7e23ee7e4988e056be3f82d19181d9c6efe8141120314088f5013875ac656398d8a2ed19d2a85c8edd3ec2aef,
     0xffffffffffffffffffffffffffffffffffffffffffffffffc7634d81f4372ddf581a0db248b0a77aecec196accc52973,
     .affine
       0xaa87ca22be8b05378eb1c71ef320ad746e1d3b628ba79b9859f741e082542a385502f25dbf55296c3a545e3872760ab7
       0x3617de4a96262c6f5d9e98bf9292dc29f8f41dbd289a147ce9da3113b5f0b8c00a60b1ce1d7e819d7a431d7c90ea0e5f⟩),
   (.secg 35,
    ⟨0x1ffffffffffffffffffffffffffffffffffffffffffffffffffffffffffffffffffffffffffffffffffffffffffffffffffffffffffffffffffffffffffffffffff,
     0x1fffffffffffffffffffffffffffffffffffffffffffffffffffffffffffffffffffffffffffffffffffffffffffffffffffffffffffffffffffffffffffffffffc,
     0x51953eb9618e1c9a1f929a21a0b68540eea2da725b99b315f3b8b489918ef109e156193951ec7e937b1652c0bd3bb1bf073573df883d2c34f1ef451fd46b503f00,
     0x1fffffffffffffffffffffffffffffffffffffffffffffffffffffffffffffffffa51868783bf2f966b7fcc0148f709a5d03bb5c9b8899c47aebb6fb71e91386409,
     .affine
       0xc6858e06b70404e9cd9e3ecb662395b4429c648139053fb521f828af606b4d3dbaa14b5e77efe75928fe1dc127a2ffa8de3348b3c1856a429bf97e7e31c2e5bd66
       0x11839296a789a3bc0045c8a5fb42c7d1bd998f54449579b446817afbd17273e662c97ee72995ef42640c550b9013fad0761353c7086a272c24088be94769fd16650⟩),
   (.x962Prime 1,
    ⟨0xfffffffffffffffffffffffffffffffeffffffffffffffff,
     0xfffffffffffffffffffffffffffffffefffffffffffffffc,
     0x64210519e59c80e70fa7e9ab72243049feb8deecc146b9b1,
     0xffffffffffffffffffffffff99def836146bc9b1b4d22831,
     .affine
       0x188da80eb03090f67cbf20eb43a18800f4ff0afd82ff1012
       0x7192b95ffc8da78631011ed6b24cdd573f977a11e794811⟩),
   (.x962Prime 2,
    ⟨0xfffffffffffffffffffffffffffffffeffffffffffffffff,
     0xfffffffffffffffffffffffffffffffefffffffffffffffc,
     0xcc22d6dfb95c6b25e49c0d6364a4e5980c393aa21668d953,
     0xfffffffffffffffffffffffe5fb1a724dc80418648d8dd31,
     .affine
       0xeea2bae7e1497842f2de7769cfe9c989c072ad696f48034a
       0x6574d11d69b6ec7a672bb82a083df2f2b0847de970b2de15⟩),
   (.x962Prime 3,
    ⟨0xfffffffffffffffffffffffffffffffeffffffffffffffff,
     0xfffffffffffffffffffffffffffffffefffffffffffffffc,
     0x22123dc2395a05caa7423daeccc94760a7d462256bd56916,
     0xffffffffffffffffffffffff7a62d031c83f4294f640ec13,
     .affine
       0x7d29778100c65a1da1783716588dce2b8b4aee8e228f1896
       0x38a90f22637337334b49dcb66a6dc8f9978aca7648a943b0⟩),
   (.x962Prime 4,
    ⟨0x7fffffffffffffffffffffff7fffffffffff8000000000007fffffffffff,
     0x7fffffffffffffffffffffff7fffffffffff8000000000007ffffffffffc,
     0x6b016c3bdcf18941d0d654921475ca71a9db2fb27d1d37796185c2942c0a,
     0x7fffffffffffffffffffffff7fffff9e5e9a9f5d9071fbd1522688909d0b,
     .affine
       0xffa963cdca8816ccc33b8642bedf905c3d358573d3f27fbbd3b3cb9aaaf
       0x7debe8e4e90a5dae6e4054ca530ba04654b36818ce226b39fccb7b02f1ae⟩),
   (.x962Prime 5,
    ⟨0x7fffffffffffffffffffffff7fffffffffff8000000000007fffffffffff,
     0x7fffffffffffffffffffffff7fffffffffff8000000000007ffffffffffc,
     0x617fab6832576cbbfed50d99f0249c3fee58b94ba0038c7ae84c8c832f2c,
     0x7fffffffffffffffffffffff800000cfa7e8594377d414c03821bc582063,
     .affine
       0x38af09d98727705120c921bb5e9e26296a3cdcf2f35757a0eafd87b830e7
       0x5b0125e4dbea0ec7206da0fc01d9b081329fb555de6ef460237dff8be4ba⟩),
   (.x962Prime 6,
    ⟨0x7fffffffffffffffffffffff7fffffffffff8000000000007fffffffffff,
     0x7fffffffffffffffffffffff7fffffffffff8000000000007ffffffffffc,
     0x255705fa2a306654b1f4cb03d6a750a30c250102d4988717d9ba15ab6d3e,
     0x7fffffffffffffffffffffff7fffff975deb41b3a6057c3c432146526551,
     .affine
       0x6768ae8e18bb92cfcf005c949aa2c6d94853d0e660bbf854b1c9505fe95a
       0x1607e6898f390c06bc1d552bad226f3b6fcfe48b6e818499af18e3ed6cf3⟩),
   (.wtls 8,
    ⟨0xfffffffffffffffffffffffffde7,
     0x0,
     0x3,
     0x100000000000001ecea551ad837e9,
     .affine
       0x1
       0x2⟩),
   (.wtls 9,
    ⟨0xfffffffffffffffffffffffffffffffffffc808f,
     0x0,
     0x3,
     0x100000000000000000001cdc98ae0e2de574abf33,
     .affine
       0x1
       0x2⟩),
   (.brainpool 1,
    ⟨0xe95e4a5f737059dc60dfc7ad95b3d8139515620f,
     0x340e7be2a280eb74e2be61bada745d97e8f7c300,
     0x1e589a8595423412134faa2dbdec95c8d8675e58,
     0xe95e4a5f737059dc60df5991d45029409e60fc09,
     .affine
       0xbed5af16ea3f6a4f62938c4631eb5af7bdbcdbc3
       0x1667cb477a1a8ec338f94741669c976316da6321⟩),
   (.brainpool 2,
    ⟨0xe95e4a5f737059dc60dfc7ad95b3d8139515620f,
     0xe95e4a5f737059dc60dfc7ad95b3d8139515620c,
     0x7a556b6dae535b7b51ed2c4d7daa7a0b5c55f380,
     0xe95e4a5f737059dc60df5991d45029409e60fc09,
     .affine
       0xb199b13b9b34efc1397e64baeb05acc265ff2378
       0xadd6718b7c7c1961f0991b842443772152c9e0ad⟩),
   (.brainpool 3,
    ⟨0xc302f41d932a36cda7a3463093d18db78fce476de1a86297,
     0x6a91174076b1e0e19c39c031fe8685c1cae040e5c69a28ef,
     0x469a28ef7c28cca3dc721d044f4496bcca7ef4146fbf25c9,
     0xc302f41d932a36cda7a3462f9e9e916b5be8f1029ac4acc1,
     .affine
       0xc0a0647eaab6a48753b033c56cb0f0900a2f5c4853375fd6
       0x14b690866abd5bb88b5f4828c1490002e6773fa2fa299b8f⟩),
   (.brainpool 4,
    ⟨0xc302f41d932a36cda7a3463093d18db78fce476de1a86297,
     0xc302f41d932a36cda7a3463093d18db78fce476de1a86294,
     0x13d56ffaec78681e68f9deb43b35bec2fb68542e27897b79,
     0xc302f41d932a36cda7a3462f9e9e916b5be8f1029ac4acc1,
     .affine
       0x3ae9e58c82f63c30282e1fe7bbf43fa72c446af6f4618129
       0x97e2c5667c2223a902ab5ca449d0084b7e5b3de7ccc01c9⟩),
   (.brainpool 5,
    ⟨0xd7c134aa264366862a18302575d1d787b09f075797da89f57ec8c0ff,
     0x68a5e62ca9ce6c1c299803a6c1530b514e182ad8b0042a59cad29f43,
     0x2580f63ccfe44138870713b1a92369e33e2135d266dbb372386c400b,
     0xd7c134aa264366862a18302575d0fb98d116bc4b6ddebca3a5a7939f,
     .affine
       0xd9029ad2c7e5cf4340823b2a87dc68c9e4ce3174c1e6efdee12c07d
       0x58aa56f772c0726f24c6b89e4ecdac24354b9e99caa3f6d3761402cd⟩),
   (.brainpool 6,
    ⟨0xd7c134aa264366862a18302575d1d787b09f075797da89f57ec8c0ff,
     0xd7c134aa264366862a18302575d1d787b09f075797da89f57ec8c0fc,
     0x4b337d934104cd7bef271bf60ced1ed20da14c08b3bb64f18a60888d,
     0xd7c134aa264366862a18302575d0fb98d116bc4b6ddebca3a5a7939f,
     .affine
       0x6ab1e344ce25ff3896424e7ffe14762ecb49f8928ac0c76029b4d580
       0x374e9f5143e568cd23f3f4d7c0d4b1e41c8cc0d1c6abd5f1a46db4c⟩),
   (.brainpool 7,
    ⟨0xa9fb57dba1eea9bc3e660a909d838d726e3bf623d52620282013481d1f6e5377,
     0x7d5a0975fc2c3057eef67530417affe7fb8055c126dc5c6ce94a4b44f330b5d9,
     0x26dc5c6ce94a4b44f330b5d9bbd77cbf958416295cf7e1ce6bccdc18ff8c07b6,
     0xa9fb57dba1eea9bc3e660a909d838d718c397aa3b561a6f7901e0e82974856a7,
     .affine
       0x8bd2aeb9cb7e57cb2c4b482ffc81b7afb9de27e1e3bd23c23a4453bd9ace3262
       0x547ef835c3dac4fd97f8461a14611dc9c27745132ded8e545c1d54c72f046997⟩),
   (.brainpool 8,
    ⟨0xa9fb57dba1eea9bc3e660a909d838d726e3bf623d52620282013481d1f6e5377,
     0xa9fb57dba1eea9bc3e660a909d838d726e3bf623d52620282013481d1f6e5374,
     0x662c61c430d84ea4fe66a7733d0b76b7bf93ebc4af2f49256ae58101fee92b04,
     0xa9fb57dba1eea9bc3e660a909d838d718c397aa3b561a6f7901e0e82974856a7,
     .affine
       0xa3e8eb3cc1cfe7b7732213b23a656149afa142c47aafbc2b79a191562e1305f4
       0x2d996c823439c56d7f7b22e14644417e69bcb6de39d027001dabe8f35b25c9be⟩),
   (.brainpool 9,
    ⟨0xd35e472036bc4fb7e13c785ed201e065f98fcfa6f6f40def4f92b9ec7893ec28fcd412b1f1b32e27,
     0x3ee30b568fbab0f883ccebd46d3f3bb8a2a73513f5eb79da66190eb085ffa9f492f375a97d860eb4,
     0x520883949dfdbc42d3ad198640688a6fe13f41349554b49acc31dccd884539816f5eb4ac8fb1f1a6,
     0xd35e472036bc4fb7e13c785ed201e065f98fcfa5b68f12a32d482ec7ee8658e98691555b44c59311,
     .affine
       0x43bd7e9afb53d8b85289bcc48ee5bfe6f20137d10a087eb6e7871e2a10a599c710af8d0d39e20611
       0x14fdd05545ec1cc8ab4093247f77275e0743ffed117182eaa9c77877aaac6ac7d35245d1692e8ee1⟩),
   (.brainpool 10,
    ⟨0xd35e472036bc4fb7e13c785ed201e065f98fcfa6f6f40def4f92b9ec7893ec28fcd412b1f1b32e27,
     0xd35e472036bc4fb7e13c785ed201e065f98fcfa6f6f40def4f92b9ec7893ec28fcd412b1f1b32e24,
     0xa7f561e038eb1ed560b3d147db782013064c19f27ed27c6780aaf77fb8a547ceb5b4fef422340353,
     0xd35e472036bc4fb7e13c785ed201e065f98fcfa5b68f12a32d482ec7ee8658e98691555b44c59311,
     .affine
       0x925be9fb01afc6fb4d3e7d4990010f813408ab106c4f09cb7ee07868cc136fff3357f624a21bed52
       0x63ba3a7a27483ebf6671dbef7abb30ebee084e58a0b077ad42a5a0989d1ee71b1b9bc0455fb0d2c3⟩),
   (.brainpool 11,
    ⟨0x8cb91e82a3386d280f5d6f7e50e641df152f7109ed5456b412b1da197fb71123acd3a729901d1a71874700133107ec53,
     0x7bc382c63d8c150c3c72080ace05afa0c2bea28e4fb22787139165efba91f90f8aa5814a503ad4eb04a8c7dd22ce2826,
     0x4a8c7dd22ce28268b39b55416f0447c2fb77de107dcd2a62e880ea53eeb62d57cb4390295dbc9943ab78696fa504c11,
     0x8cb91e82a3386d280f5d6f7e50e641df152f7109ed5456b31f166e6cac0425a7cf3ab6af6b7fc3103b883202e9046565,
     .affine
       0x1d1c64f068cf45ffa2a63a81b7c13f6b8847a3e77ef14fe3db7fcafe0cbd10e8e826e03436d646aaef87b2e247d4af1e
       0x8abe1d7520f9c2a45cb1eb8e95cfd55262b70b29feec5864e19c054ff99129280e4646217791811142820341263c5315⟩),
   (.brainpool 12,
    ⟨0x8cb91e82a3386d280f5d6f7e50e641df152f7109ed5456b412b1da197fb71123acd3a729901d1a71874700133107ec53,
     0x8cb91e82a3386d280f5d6f7e50e641df152f7109ed5456b412b1da197fb71123acd3a729901d1a71874700133107ec50,
     0x7f519eada7bda81bd826dba647910f8c4b9346ed8ccdc64e4b1abd11756dce1d2074aa263b88805ced70355a33b471ee,
     0x8cb91e82a3386d280f5d6f7e50e641df152f7109ed5456b31f166e6cac0425a7cf3ab6af6b7fc3103b883202e9046565,
     .affine
       0x18de98b02db9a306f2afcd7235f72a819b80ab12ebd653172476fecd462aabffc4ff191b946a5f54d8d0aa2f418808cc
       0x25ab056962d30651a114afd2755ad336747f93475b7a1fca3b88f2b6a208ccfe469408584dc2b2912675bf5b9e582928⟩),
   (.brainpool 13,
    ⟨0xaadd9db8dbe9c48b3fd4e6ae33c9fc07cb308db3b3c9d20ed6639cca703308717d4d9b009bc66842aecda12ae6a380e62881ff2f2d82c68528aa6056583a48f3,
     0x7830a3318b603b89e2327145ac234cc594cbdd8d3df91610a83441caea9863bc2ded5d5aa8253aa10a2ef1c98b9ac8b57f1117a72bf2c7b9e7c1ac4d77fc94ca,
     0x3df91610a83441caea9863bc2ded5d5aa8253aa10a2ef1c98b9ac8b57f1117a72bf2c7b9e7c1ac4d77fc94cadc083e67984050b75ebae5dd2809bd638016f723,
     0xaadd9db8dbe9c48b3fd4e6ae33c9fc07cb308db3b3c9d20ed6639cca70330870553e5c414ca92619418661197fac10471db1d381085ddaddb58796829ca90069,
     .affine
       0x81aee4bdd82ed9645a21322e9c4c6a9385ed9f70b5d916c1b43b62eef4d0098eff3b1f78e2d0d48d50d1687b93b97d5f7c6d5047406a5e688b352209bcb9f822
       0x7dde385d566332ecc0eabfa9cf7822fdf209f70024a57b1aa000c55b881f8111b2dcde494a5f485e5bca4bd88a2763aed1ca2b2fa8f0540678cd1e0f3ad80892⟩),
   (.brainpool 14,
    ⟨0xaadd9db8dbe9c48b3fd4e6ae33c9fc07cb308db3b3c9d20ed6639cca703308717d4d9b009bc66842aecda12ae6a380e62881ff2f2d82c68528aa6056583a48f3,
     0xaadd9db8dbe9c48b3fd4e6ae33c9fc07cb308db3b3c9d20ed6639cca703308717d4d9b009bc66842aecda12ae6a380e62881ff2f2d82c68528aa6056583a48f0,
     0x7cbbbcf9441cfab76e1890e46884eae321f70c0bcb4981527897504bec3e36a62bcdfa2304976540f6450085f2dae145c22553b465763689180ea2571867423e,
     0xaadd9db8dbe9c48b3fd4e6ae33c9fc07cb308db3b3c9d20ed6639cca70330870553e5c414ca92619418661197fac10471db1d381085ddaddb58796829ca90069,
     .affine
       0x640ece5c12788717b9c1ba06cbc2a6feba85842458c56dde9db1758d39c0313d82ba51735cdb3ea499aa77a7d6943a64f7a3f25fe26f06b51baa2696fa9035da
       0x5b534bd595f5af0fa2c892376c84ace1bb4e3019b71634c01131159cae03cee9d9932184beef216bd71df2dadf86a627306ecff96dbb8bace198b61e00f8b332⟩),
   (.sm2, sm2)]

end Curve

/-- The curves over binary fields, with an identifier each. -/
def BinaryCurve.named : List (Oid × BinaryCurve) :=
  [(.secg 4,
    ⟨0x20000000000000000000000000201,
     0x3088250ca6e7c7fe649ce85820f7,
     0xe8bee4d3e2260744188be0e9c723,
     0x100000000000000d9ccec8a39e56f,
     .affine
       0x9d73616f35f4ab1407d73562c10f
       0xa52830277958ee84d1315ed31886⟩),
   (.secg 5,
    ⟨0x20000000000000000000000000201,
     0x689918dbec7e5a0dd6dfc0aa55c7,
     0x95e9a9ec9b297bd4bf36e059184f,
     0x10000000000000108789b2496af93,
     .affine
       0x1a57a6a7b26ca5ef52fcdb8164797
       0xb3adc94ed1fe674c06e695baba1d⟩),
   (.secg 22,
    ⟨0x80000000000000000000000000000010d,
     0x7a11b09a76b562144418ff3ff8c2570b8,
     0x217c05610884b63b9c6c7291678f9d341,
     0x400000000000000023123953a9464b54d,
     .affine
       0x81baf91fdf9833c40f9c181343638399
       0x78c6e7ea38c001f73c8134b1b4ef9e150⟩),
   (.secg 23,
    ⟨0x80000000000000000000000000000010d,
     0x3e5a88919d7cafcbf415f07c2176573b2,
     0x4b8266a46c55657ac734ce38f018f2192,
     0x400000000000000016954a233049ba98f,
     .affine
       0x356dcd8f2f95031ad652d23951bb366a8
       0x648f06d867940a5366d9e265de9eb240f⟩),
   (.secg 1,
    ⟨0x800000000000000000000000000000000000000c9,
     0x1,
     0x1,
     0x4000000000000000000020108a2e0cc0d99f8a5ef,
     .affine
       0x2fe13c0537bbc11acaa07d793de4e6d5e5c94eee8
       0x289070fb05d38ff58321f2e800536d538ccdaa3d9⟩),
   (.secg 2,
    ⟨0x800000000000000000000000000000000000000c9,
     0x7b6882caaefa84f9554ff8428bd88e246d2782ae2,
     0x713612dcddcb40aab946bda29ca91f73af958afd9,
     0x3ffffffffffffffffffff48aab689c29ca710279b,
     .affine
       0x369979697ab43897789566789567f787a7876a654
       0x435edb42efafb2989d51fefce3c80988f41ff883⟩),
   (.secg 15,
    ⟨0x800000000000000000000000000000000000000c9,
     0x1,
     0x20a601907b8c953ca1481eb10512f78744a3205fd,
     0x40000000000000000000292fe77e70c12a4234c33,
     .affine
       0x3f0eba16286a2d57ea0991168d4994637e8343e36
       0xd51fbc6c71a0094fa2cdd545b11c5c0c797324f1⟩),
   (.secg 24,
    ⟨0x2000000000000000000000000000000000000000000008001,
     0x17858feb7a98975169e171f77b4087de098ac8a911df7b01,
     0xfdfb49bfe6c3a89facadaa7a1e5bbc7cc1c2e5d831478814,
     0x1000000000000000000000000c7f34a778f443acc920eba49,
     .affine
       0x1f481bc5f0ff84a74ad6cdf6fdef4bf6179625372d8c0c5e1
       0x25e399f2903712ccf3ea9e3a1ad17fb0b3201b6af7ce1b05⟩),
   (.secg 25,
    ⟨0x2000000000000000000000000000000000000000000008001,
     0x163f35a5137c2ce3ea6ed8667190b0bc43ecd69977702709b,
     0xc9bb9e8927d4d64c377e2ab2856a5b16e3efb7f61d4316ae,
     0x10000000000000000000000015aab561b005413ccd4ee99d5,
     .affine
       0xd9b67d192e0367c803f39e1a7e82ca14a651350aae617e8f
       0x1ce94335607c304ac29e7defbd9ca01f596f927224cdecf6c⟩),
   (.secg 26,
    ⟨0x20000000000000000000000000000000000000004000000000000000001,
     0x0,
     0x1,
     0x8000000000000000000000000000069d5bb915bcd46efb1ad5f173abdf,
     .affine
       0x17232ba853a7e731af129f22ff4149563a419c26bf50a4c9d6eefad6126
       0x1db537dece819b7f70f555a67c427a8cd9bf18aeb9b56e0c11056fae6a3⟩),
   (.secg 27,
    ⟨0x20000000000000000000000000000000000000004000000000000000001,
     0x1,
     0x66647ede6c332c7f8c0923bb58213b333b20e9ce4281fe115f7d8f90ad,
     0x1000000000000000000000000000013e974e72f8a6922031d2603cfe0d7,
     .affine
       0xfac9dfcbac8313bb2139f1bb755fef65bc391f8b36f8f8eb7371fd558b
       0x1006a08a41903350678e58528bebf8a0beff867a7ca36716f7e01f81052⟩),
   (.secg 3,
    ⟨0x800000000000000000004000000000000000000000000000000000000001,
     0x0,
     0x1,
     0x2000000000000000000000000000005a79fec67cb6e91f1c1da800e478a5,
     .affine
       0x29a0b6a887a983e9730988a68727a8b2d126c44cc2cc7b2a6555193035dc
       0x76310804f12e549bdb011c103089e73510acb275fc312a5dc6b76553f0ca⟩),
   (.secg 16,
    ⟨0x800000000000000000000000000000000000000000000000000000000000000000010a1,
     0x0,
     0x1,
     0x1ffffffffffffffffffffffffffffffffffe9ae2ed07577265dff7f94451e061e163c61,
     .affine
       0x503213f78ca44883f1a3b8162f188e553cd265f23c1567a16876913b0c2ac2458492836
       0x1ccda380f1c9e318d90f95d07e5426fe87e45c0e8184698e45962364e34116177dd2259⟩),
   (.secg 17,
    ⟨0x800000000000000000000000000000000000000000000000000000000000000000010a1,
     0x1,
     0x27b680ac8b8596da5a4af8a19a0303fca97fd7645309fa2a581485af6263e313b79a2f5,
     0x3ffffffffffffffffffffffffffffffffffef90399660fc938a90165b042a7cefadb307,
     .affine
       0x5f939258db7dd90e1934f8c70b0dfec2eed25b8557eac9c80e2e198f8cdbecd86b12053
       0x3676854fe24141cb98fe6d4b20d02b4516ff702350eddb0826779c813f0df45be8112f4⟩),
   (.secg 36,
    ⟨0x2000000000000000000000000000000000000000000000000000000000000000000000000000000008000000000000000000001,
     0x0,
     0x1,
     0x7ffffffffffffffffffffffffffffffffffffffffffffffffffe5f83b2d4ea20400ec4557d5ed3e3e7ca5b4b5c83b8e01e5fcf,
     .affine
       0x60f05f658f49c1ad3ab1890f7184210efd0987e307c84c27accfb8f9f67cc2c460189eb5aaaa62ee222eb1b35540cfe9023746
       0x1e369050b7c4e42acba1dacbf04299c3460782f918ea427e6325165e9ea10e3da5f6c42e9c55215aa9ca27a5863ec48d8e0286b⟩),
   (.secg 37,
    ⟨0x2000000000000000000000000000000000000000000000000000000000000000000000000000000008000000000000000000001,
     0x1,
     0x21a5c2c8ee9feb5c4b9a753b7b476b7fd6422ef1f3dd674761fa99d6ac27c8a9a197b272822f6cd57a55aa4f50ae317b13545f,
     0x10000000000000000000000000000000000000000000000000001e2aad6a612f33307be5fa47c3c9e052f838164cd37d9a21173,
     .affine
       0x15d4860d088ddb3496b0c6064756260441cde4af1771d4db01ffe5b34e59703dc255a868a1180515603aeab60794e54bb7996a7
       0x61b1cfab6be5f32bbfa78324ed106a7636b9c5a7bd198d0158aa4f5488d08f38514f1fdf4b4f40d2181b3681c364ba0273c706⟩),
   (.secg 38,
    ⟨0x80000000000000000000000000000000000000000000000000000000000000000000000000000000000000000000000000000000000000000000000000000000000000000000425,
     0x0,
     0x1,
     0x20000000000000000000000000000000000000000000000000000000000000000000000131850e1f19a63e4b391a8db917f4138b630d84be5d639381e91deb45cfe778f637c1001,
     .affine
       0x26eb7a859923fbc82189631f8103fe4ac9ca2970012d5d46024804801841ca44370958493b205e647da304db4ceb08cbbd1ba39494776fb988b47174dca88c7e2945283a01c8972
       0x349dc807f4fbf374f4aeade3bca95314dd58cec9f307a54ffc61efc006d8a2c9d4979c0ac44aea74fbebbb9f772aedcb620b01a7ba7af1b320430c8591984f601cd4c143ef1c7a3⟩),
   (.secg 39,
    ⟨0x80000000000000000000000000000000000000000000000000000000000000000000000000000000000000000000000000000000000000000000000000000000000000000000425,
     0x1,
     0x2f40e7e2221f295de297117b7f3d62f5c6a97ffcb8ceff1cd6ba8ce4a9a18ad84ffabbd8efa59332be7ad6756a66e294afd185a78ff12aa520e4de739baca0c7ffeff7f2955727a,
     0x3ffffffffffffffffffffffffffffffffffffffffffffffffffffffffffffffffffffffe661ce18ff55987308059b186823851ec7dd9ca1161de93d5174d66e8382e9bb2fe84e47,
     .affine
       0x303001d34b856296c16c0d40d3cd7750a93d1d2955fa80aa5f40fc8db7b2abdbde53950f4c0d293cdd711a35b67fb1499ae60038614f1394abfa3b4c850d927e1e7769c8eec2d19
       0x37bf27342da639b6dccfffeb73d69d78c6c27a6009cbbca1980f8533921e8a684423e43bab08a576291af8f461bb2a8b3531d2f0485c19b16e2f1516e23dd3c1a4827af1b8ac15b⟩),
   (.x962Binary 1,
    ⟨0x80000000000000000000000000000000000000107,
     0x72546b5435234a422e0789675f432c89435de5242,
     0xc9517d06d5240d3cff38c74b20b6cd4d6f9dd4d9,
     0x400000000000000000001e60fc8821cc74daeafc1,
     .affine
       0x7af69989546103d79329fcc3d74880f33bbe803cb
       0x1ec23211b5966adea1d3f87f7ea5848aef0b7ca9f⟩),
   (.x962Binary 2,
    ⟨0x80000000000000000000000000000000000000107,
     0x108b39e77c4b108bed981ed0e890e117c511cf072,
     0x667aceb38af4e488c407433ffae4f1c811638df20,
     0x3fffffffffffffffffffdf64de1151adbb78f10a7,
     .affine
       0x24266e4eb5106d0a964d92c4860e2671db9b6cc5
       0x79f684ddf6684c5cd258b3890021b2386dfd19fc5⟩),
   (.x962Binary 3,
    ⟨0x80000000000000000000000000000000000000107,
     0x7a526c63d3e25a256a007699f5447e32ae456b50e,
     0x3f7061798eb99e238fd6f1bf95b48feeb4854252b,
     0x3fffffffffffffffffffe1aee140f110aff961309,
     .affine
       0x2f9f87b7c574d0bdecf8a22e6524775f98cdebdcb
       0x5b935590c155e17ea48eb3ff3718b893df59a05d0⟩),
   (.x962Binary 4,
    ⟨0x100000000000000000000000000000000080000000007,
     0xe4e6db2995065c407d9d39b8d0967b96704ba8e9c90b,
     0x5dda470abe6414de8ec133ae28e9bbd7fcec0ae0fff2,
     0x10092537397eca4f6145799d62b0a19ce06fe26ad,
     .affine
       0x8d16c2866798b600f9f08bb4a8e860f3298ce04a5798
       0x6fa4539c2dadddd6bab5167d61b436e1d92bb16a562c⟩),
   (.x962Binary 5,
    ⟨0x800000000000000000000000000000000000000000000201,
     0x2866537b676752636a68f56554e12640276b649ef7526267,
     0x2e45ef571f00786f67b0081b9495a3d95462f5de0aa185ec,
     0x40000000000000000000000004a20e90c39067c893bbb9a5,
     .affine
       0x36b3daf8a23206f9c4f299d7b21a9c369137f2c84ae1aa0d
       0x765be73433b3f95e332932e70ea245ca2418ea0ef98018fb⟩),
   (.x962Binary 6,
    ⟨0x800000000000000000000000000000000000000000000201,
     0x401028774d7777c7b7666d1366ea432071274f89ff01e718,
     0x620048d28bcbd03b6249c99182b7c8cd19700c362c46a01,
     0x20000000000000000000000050508cb89f652824e06b8173,
     .affine
       0x3809b2b7cc1b28cc5a87926aad83fd28789e81e2c9e3bf10
       0x17434386626d14f3dbf01760d9213a3e1cf37aec437d668a⟩),
   (.x962Binary 7,
    ⟨0x800000000000000000000000000000000000000000000201,
     0x6c01074756099122221056911c77d77e77a777e7e7e77fcb,
     0x71fe1af926cf847989efef8db459f66394d90f32ad3f15e8,
     0x155555555555555555555555610c0b196812bfb6288a3ea3,
     .affine
       0x375d4ce24fde434489de8746e71786015009e66e38a926dd
       0x545a39176196575d985999366e6ad34ce0a77cd7127b06be⟩),
   (.x962Binary 10,
    ⟨0x10000000000000000000000000000000800000000000000000007,
     0x0,
     0xc8619ed45a62e6212e1160349e2bfa844439fafc2a3fd1638f9e,
     0x101baf95c9723c57b6c21da2eff2d5ed588bdd5717e212f9d,
     .affine
       0x89fdfbe4abe193df9559ecf07ac0ce78554e2784eb8c1ed1a57a
       0xf55b51a06e78e9ac38a035ff520d8b01781beb1a6bb08617de3⟩),
   (.x962Binary 11,
    ⟨0x800000000000000000000000000000000000000000000000001000000001,
     0x32010857077c5431123a46b808906756f543423e8d27877578125778ac76,
     0x790408f2eedaf392b012edefb3392f30f4327c0ca3f31fc383c422aa8c16,
     0x2000000000000000000000000000000f4d42ffe1492a4993f1cad666e447,
     .affine
       0x57927098fa932e7c0a96d3fd5b706ef7e5f5c156e16b7e7c86038552e91d
       0x61d8ee5077c33fecf6f1a16b268de469c3c7744ea9a971649fc7a9616305⟩),
   (.x962Binary 12,
    ⟨0x800000000000000000000000000000000000000000000000001000000001,
     0x4230017757a767fae42398569b746325d45313af0766266479b75654e65f,
     0x5037ea654196cff0cd82b2c14a2fcf2e3ff8775285b545722f03eacdb74b,
     0x1555555555555555555555555555553c6f2885259c31e3fcdf154624522d,
     .affine
       0x28f9d04e900069c8dc47a08534fe76d2b900b7d7ef31f5709f200c4ca205
       0x5667334c45aff3b5a03bad9dd75e2c71a99362567d5453f7fa6e227ec833⟩),
   (.x962Binary 13,
    ⟨0x800000000000000000000000000000000000000000000000001000000001,
     0x1238774666a67766d6676f778e676b66999176666e687666d8766c66a9f,
     0x6a941977ba9f6a435199acfc51067ed587f519c5ecb541b8e44111de1d40,
     0xcccccccccccccccccccccccccccccac4912d2d9df903ef9888b8a0e4cff,
     .affine
       0x70f6e9d04d289c4e89913ce3530bfde903977d42b146d539bf1bde4e9c92
       0x2e5a0eaf6e5e1305b9004dce5c0ed7fe59a35608f33837c816d80b79f461⟩),
   (.x962Binary 16,
    ⟨0x10000000000000000000000000000000000000000000000000000010000000000000b,
     0x91a091f03b5fba4ab2ccf49c4edd220fb028712d42be752b2c40094dbacdb586fb20,
     0x7167efc92bb2e3ce7c8aaaff34e12a9c557003d7c73a6faf003f99f6cc8482e540f7,
     0x100faf51354e0e39e4892df6e319c72c8161603fa45aa7b998a167b8f1e629521,
     .affine
       0x6108babb2ceebcf787058a056cbe0cfe622d7723a289e08a07ae13ef0d10d171dd8d
       0x10c7695716851eef6ba7f6872e6142fbd241b830ff5efcaceccab05e02005dde9d23⟩),
   (.x962Binary 17,
    ⟨0x10000000000000000000000000000000000000000000000000000000000000000000000000807,
     0xfd0d693149a118f651e6dce6802085377e5f882d1b510b44160074c1288078365a0396c8e681,
     0xbddb97e555a50a908e43b01c798ea5daa6788f1ea2794efcf57166b8c14039601e55827340be,
     0x101d556572aabac800101d556572aabac8001022d5c91dd173f8fb561da6899164443051d,
     .affine
       0x197b07845e9be2d96adb0f5f3c7f2cffbd7a3eb8b6fec35c7fd67f26ddf6285a644f740a2614
       0xe19fbeb76e0da171517ecf401b50289bf014103288527a9b416a105e80260b549fdc1b92c03b⟩),
   (.x962Binary 18,
    ⟨0x800000000000000000000000000000000000000000000000000000000000000000000000100000000000000001,
     0x5667676a654b20754f356ea92017d946567c46675556f19556a04616b567d223a5e05656fb549016a96656a557,
     0x2472e2d0197c49363f1fe7f5b6db075d52b6947d135d8ca445805d39bc345626089687742b6329e70680231988,
     0x1af286bca1af286bca1af286bca1af286bca1af286bc9fb8f6b85c556892c20a7eb964fe7719e74f490758d3b,
     .affine
       0x3c258ef3047767e7ede0f1fdaa79daee3841366a132e163aced4ed2401df9c6bdcde98e8e707c07a2239b1b097
       0x53d7e08529547048121e9c95f3791dd804963948f34fae7bf44ea82365dc7868fe57e4ae2de211305a407104bd⟩),
   (.x962Binary 19,
    ⟨0x100000000000000000000000000000000000000000000000000000000000000000000002000000000000000000007,
     0xe0d2ee25095206f5e2a4f9ed229f1f256e79a0e2b455970d8d0d865bd94778c576d62f0ab7519ccd2a1a906ae30d,
     0xfc1217d4320a90452c760a58edcd30c8dd069b3c34453837a34ed50cb54917e1c2112d84d164f444f8f74786046a,
     0x10090512da9af72b08349d98a5dd4c7b0532eca51ce03e2d10f3b7ac579bd87e909ae40a6f131e9cfce5bd967,
     .affine
       0x1085e2755381dccce3c1557afa10c2f0c0c2825646c5b34a394cbcfa8bc16b22e7e789e927be216f02e1fb136a5f
       0x7b3eb1bddcba62d5d8b2059b525797fc73822c59059c623a45ff3843cee8f87cd1855adaa81e2a0750b80fda2310⟩),
   (.x962Binary 20,
    ⟨0x800000000000000000000000000000000000000000000000000000000000000000000000000001000000000000000000000000000001,
     0x1a827ef00dd6fc0e234caf046c6a5d8a85395b236cc4ad2cf32a0cadbdc9ddf620b0eb9906d0957f6c6feacd615468df104de296cd8f,
     0x10d9b4a3d9047d8b154359abfb1b7f5485b04ceb868237ddc9deda982a679a5a919b626d4e50a8dd731b107a9962381fb5d807bf2618,
     0x340340340340340340340340340340340340340340340340340340323c313fab50589703b5ec68d3587fec60d161cc149c1ad4a91,
     .affine
       0x120fc05d3c67a99de161d2f4092622feca701be4f50f4758714e8a87bbf2a658ef8c21e7c5efe965361f6c2999c0c247b0dbd70ce6b7
       0x20d0af8903a96f8d5fa2c255745d3c451b302c9346d9b7e485e7bce41f6b591f3e8f6addcbb0bc4c2f947a7de1a89b625d6a598b3760⟩),
   (.wtls 1,
    ⟨0x20000000000000000000000000201,
     0x1,
     0x1,
     0xfffffffffffffffdbf91af6dea73,
     .affine
       0x1667979a40ba497e5d5c270780617
       0xf44b4af1ecc2630e08785cebcc15⟩)]

/-- A curve over a field of either kind. -/
inductive AnyCurve where
  | prime (curve : Curve)
  | binary (curve : BinaryCurve)
deriving DecidableEq

namespace AnyCurve

/-- Identifiers of a curve that has another one as well. -/
def aliases : List (Oid × Oid) :=
  [(.wtls 6, .secg 6), (.wtls 7, .secg 30), (.wtls 12, .secg 33), (.wtls 4, .secg 4),
    (.wtls 3, .secg 1), (.wtls 10, .secg 26), (.wtls 11, .secg 27), (.wtls 5, .x962Binary 1)]

/-- The curve that an object identifier names. -/
def named? (oid : Oid) : Option AnyCurve :=
  let oid := (aliases.lookup oid).getD oid
  (Curve.named.lookup oid).map prime <|> (BinaryCurve.named.lookup oid).map binary

end AnyCurve
end PackedAttestation
