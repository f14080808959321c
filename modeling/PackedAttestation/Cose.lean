import PackedAttestation.Octets

/-! # COSE algorithms and keys

The registered algorithms of the COSE registry that a credential key may declare,
with the number and the name of each, and the public key of a credential: the
algorithm it declares, and the key material of one of three types.  The two need not
fit each other.
-/
namespace PackedAttestation.Cose

/-! ### Algorithms -/

/-- A COSE signature algorithm. -/
inductive Algorithm where
  /-- ECDSA with SHA-256. -/
  | es256
  /-- ECDSA with SHA-384. -/
  | es384
  /-- ECDSA with SHA-512. -/
  | es512
  /-- RSA PKCS #1 version 1.5 with SHA-256. -/
  | rs256
  | rs384
  | rs512
  /-- RSA PSS with SHA-256. -/
  | ps256
  | ps384
  | ps512
  | eddsa
  /-- RSA PKCS #1 version 1.5 with SHA-1, which is not secure. -/
  | insecureRs1
deriving DecidableEq

namespace Algorithm

/-- All algorithms. -/
def all : List Algorithm :=
  [es256, es384, es512, rs256, rs384, rs512, ps256, ps384, ps512, eddsa, insecureRs1]

/-- The registered number of an algorithm. -/
def id : Algorithm → Int
  | es256 => -7
  | es384 => -35
  | es512 => -36
  | rs256 => -257
  | rs384 => -258
  | rs512 => -259
  | ps256 => -37
  | ps384 => -38
  | ps512 => -39
  | eddsa => -8
  | insecureRs1 => -65535

/-- The algorithm with a registered number. -/
def ofId? (n : Int) : Option Algorithm :=
  all.find? fun algorithm => algorithm.id == n

/-- The name of an algorithm. -/
def name : Algorithm → String
  | es256 => "ES256"
  | es384 => "ES384"
  | es512 => "ES512"
  | rs256 => "RS256"
  | rs384 => "RS384"
  | rs512 => "RS512"
  | ps256 => "PS256"
  | ps384 => "PS384"
  | ps512 => "PS512"
  | eddsa => "EDDSA"
  | insecureRs1 => "INSECURE_RS1"

/-- A second name under which an algorithm is known. -/
def alias? : Algorithm → Option String
  | es256 => some "ECDSA_SHA256"
  | es384 => some "ECDSA_SHA384"
  | es512 => some "ECDSA_SHA512"
  | _ => none

/-- The algorithm with a name. -/
def ofName? (s : String) : Option Algorithm :=
  all.find? fun algorithm => algorithm.name == s

end Algorithm

/-! ### Keys -/

/-- A curve for keys with two coordinates. -/
inductive EcCurve where
  | p256 | p384 | p521
deriving DecidableEq

namespace EcCurve

/-- All curves. -/
def all : List EcCurve := [p256, p384, p521]

/-- The name of a curve. -/
def name : EcCurve → String
  | p256 => "SECP256R1"
  | p384 => "SECP384R1"
  | p521 => "SECP521R1"

/-- The registered number of a curve. -/
def number : EcCurve → Nat
  | p256 => 1
  | p384 => 2
  | p521 => 3

/-- The number of bytes of a coordinate. -/
def coordinateSize : EcCurve → Nat
  | p256 => 32
  | p384 => 48
  | p521 => 66

/-- The curve with a name. -/
def ofName? (s : String) : Option EcCurve :=
  all.find? fun curve => curve.name == s

end EcCurve

/-- A curve for keys with one coordinate. -/
inductive EdCurve where
  | ed25519 | ed448
deriving DecidableEq

namespace EdCurve

/-- All curves. -/
def all : List EdCurve := [ed25519, ed448]

/-- The name of a curve. -/
def name : EdCurve → String
  | ed25519 => "ED25519"
  | ed448 => "ED448"

/-- The registered number of a curve. -/
def number : EdCurve → Nat
  | ed25519 => 6
  | ed448 => 7

/-- The curve with a name. -/
def ofName? (s : String) : Option EdCurve :=
  all.find? fun curve => curve.name == s

end EdCurve

/-- A key with two coordinates. -/
structure Ec2Key where
  curve : EcCurve
  x : Bytes
  y : Bytes
deriving DecidableEq

/-- A key with one coordinate, an octet key pair. -/
structure OkpKey where
  curve : EdCurve
  x : Bytes
deriving DecidableEq

/-- An RSA key, whose exponent has three bytes. -/
structure RsaKey where
  modulus : Bytes
  exponent : Octets 3
deriving DecidableEq

/-- The type of a key. -/
inductive KeyType where
  | okp | ec2 | rsa
deriving DecidableEq

/-- The short name of a key type. -/
def KeyType.name : KeyType → String
  | okp => "OKP"
  | ec2 => "EC2"
  | rsa => "RSA"

/-- Key material of one of the three types. -/
inductive KeyMaterial where
  | okp (key : OkpKey)
  | ec2 (key : Ec2Key)
  | rsa (key : RsaKey)
deriving DecidableEq

namespace KeyMaterial

/-- The type of key material. -/
def type : KeyMaterial → KeyType
  | okp _ => .okp
  | ec2 _ => .ec2
  | rsa _ => .rsa

/-- The registered number of the curve, where there is one. -/
def curveNumber? : KeyMaterial → Option Nat
  | okp key => some key.curve.number
  | ec2 key => some key.curve.number
  | rsa _ => none

/-- The number of bytes of a coordinate, where there are two. -/
def coordinateSize? : KeyMaterial → Option Nat
  | ec2 key => some key.curve.coordinateSize
  | _ => none

end KeyMaterial

/-- The public key of a credential. -/
structure Key where
  /-- The algorithm that the key declares. -/
  algorithm : Algorithm
  material : KeyMaterial
deriving DecidableEq

end PackedAttestation.Cose
