import PackedAttestation.Der.Element

/-! # Object identifiers

An object identifier is kept as the content of its element: the first two arcs in
one number, then one number for each further arc, each in base 128 with the
continuation bit on all octets but its last.
-/
namespace PackedAttestation

/-- An object identifier, as the content of its element. -/
structure Oid where
  content : Bytes
deriving DecidableEq

namespace Oid

/-- One number of an object identifier in base 128. -/
def octetsOf (n : Nat) : Bytes :=
  Der.numberOctets (n.log2 / 7 + 1) n false

/-- The object identifier with the given arcs. -/
def ofArcs : List Nat → Oid
  | first :: second :: rest => ⟨octetsOf (first * 40 + second) ++ rest.flatMap octetsOf⟩
  | _ => ⟨[]⟩

/-- The numbers of an object identifier, given the digits read so far of the next one. -/
def numbers : (acc : Nat) → Bytes → List Nat
  | _, [] => []
  | acc, b :: rest =>
    let n := acc * 128 + b.toNat % 128
    if b < 128 then n :: numbers 0 rest else numbers n rest

/-- The arcs of an object identifier. -/
def arcs (oid : Oid) : List Nat :=
  match numbers 0 oid.content with
  | [] => []
  | n :: rest => min (n / 40) 2 :: (n - min (n / 40) 2 * 40) :: rest

/-- The arcs in decimal, with dots between them. -/
def text (oid : Oid) : String :=
  ".".intercalate (oid.arcs.map fun n => toString n)

/-- The rules for content: there is some, its last octet ends a number, and no number
starts with the octet `80`, which would be a leading zero. -/
def wellFormed : (starts : Bool) → Bytes → Bool
  | _, [] => false
  | starts, b :: rest =>
    !(starts && b == 128) && if rest.isEmpty then b < 128 else wellFormed (b < 128) rest

/-! ### The identifiers of this library -/

/-- The certificate extension that tells the AAGUID of an authenticator. -/
def aaguidExtension : Oid := ofArcs [1, 3, 6, 1, 4, 1, 45724, 1, 1, 4]

/-- The certificate extension for basic constraints. -/
def basicConstraints : Oid := ofArcs [2, 5, 29, 19]

def ecdsaWithSha256 : Oid := ofArcs [1, 2, 840, 10045, 4, 3, 2]
def ecdsaWithSha384 : Oid := ofArcs [1, 2, 840, 10045, 4, 3, 3]
def ecdsaWithSha512 : Oid := ofArcs [1, 2, 840, 10045, 4, 3, 4]
def sha256WithRsa : Oid := ofArcs [1, 2, 840, 113549, 1, 1, 11]
def sha384WithRsa : Oid := ofArcs [1, 2, 840, 113549, 1, 1, 12]
def sha512WithRsa : Oid := ofArcs [1, 2, 840, 113549, 1, 1, 13]
def ecPublicKey : Oid := ofArcs [1, 2, 840, 10045, 2, 1]
def rsaEncryption : Oid := ofArcs [1, 2, 840, 113549, 1, 1, 1]
/-- An older identifier of the same keys. -/
def rsa : Oid := ofArcs [2, 5, 8, 1, 1]
def rsaPss : Oid := ofArcs [1, 2, 840, 113549, 1, 1, 10]
def dsa : Oid := ofArcs [1, 2, 840, 10040, 4, 1]
def dsaWithSha1 : Oid := ofArcs [1, 2, 840, 10040, 4, 3]
/-- Older identifiers of keys of the same kind: without a hash, with SHA, and with SHA-1. -/
def oldDsa : Oid := ofArcs [1, 3, 14, 3, 2, 12]
def oldDsaWithSha : Oid := ofArcs [1, 3, 14, 3, 2, 13]
def oldDsaWithSha1 : Oid := ofArcs [1, 3, 14, 3, 2, 27]
def dhKeyAgreement : Oid := ofArcs [1, 2, 840, 113549, 1, 3, 1]
/-- Diffie-Hellman with the parameters of X9.42. -/
def dhPublicNumber : Oid := ofArcs [1, 2, 840, 10046, 2, 1]
def x25519 : Oid := ofArcs [1, 3, 101, 110]
def x448 : Oid := ofArcs [1, 3, 101, 111]
def ed25519 : Oid := ofArcs [1, 3, 101, 112]
def ed448 : Oid := ofArcs [1, 3, 101, 113]

/-- The types of fields, and of bases of binary fields. -/
def primeField : Oid := ofArcs [1, 2, 840, 10045, 1, 1]
def binaryField : Oid := ofArcs [1, 2, 840, 10045, 1, 2]
def trinomialBasis : Oid := ofArcs [1, 2, 840, 10045, 1, 2, 3, 2]
def pentanomialBasis : Oid := ofArcs [1, 2, 840, 10045, 1, 2, 3, 3]

/-- The families of named curves. -/
def x962Prime (n : Nat) : Oid := ofArcs [1, 2, 840, 10045, 3, 1, n]
def x962Binary (n : Nat) : Oid := ofArcs [1, 2, 840, 10045, 3, 0, n]
def secg (n : Nat) : Oid := ofArcs [1, 3, 132, 0, n]
def brainpool (n : Nat) : Oid := ofArcs [1, 3, 36, 3, 3, 2, 8, 1, 1, n]
def wtls (n : Nat) : Oid := ofArcs [2, 23, 43, 1, 4, n]
def sm2 : Oid := ofArcs [1, 2, 156, 10197, 1, 301]
def curveP256 : Oid := x962Prime 7

end Oid
end PackedAttestation
