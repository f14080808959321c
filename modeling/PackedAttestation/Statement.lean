import PackedAttestation.Error

/-! # Packed attestation statements

An attestation statement arrives as an untyped CBOR value.  A map is the list of the
entries put into it, and a later entry replaces an earlier one with the same key.

A statement is a map with the fields `alg` and `sig`.  It is of the basic type if it
has the field `x5c`, else of the ECDAA type if it has the field `ecdaaKeyId`, else
of the self type.  Other entries are ignored.
-/
namespace PackedAttestation

/-! ### Untyped values -/

/-- A CBOR value. -/
inductive Cbor where
  | null
  | bool (b : Bool)
  | integer (n : Int)
  /-- A floating-point number, kept as its decimal text. -/
  | float (text : String)
  | bytes (b : Bytes)
  | text (s : String)
  | array (items : List Cbor)
  /-- The entries in the order in which they were put in. -/
  | map (entries : List (Cbor × Cbor))
  | tag (number : Nat) (item : Cbor)

namespace Cbor

/-- Whether a value is the text `s`. -/
def isText (s : String) : Cbor → Bool
  | text t => t == s
  | _ => false

/-- The value under a text key: that of the last entry with the key. -/
def lookup (key : String) : List (Cbor × Cbor) → Option Cbor
  | [] => none
  | (k, v) :: rest =>
    match lookup key rest with
    | some w => some w
    | none => if isText key k then some v else none

end Cbor

/-! ### Statements -/

/-- A statement with a chain of certificates. -/
structure BasicStatement where
  alg : Int64
  sig : Bytes
  /-- The attestation certificate. -/
  leaf : Bytes
  /-- The certificates after it. -/
  chain : List Bytes
deriving DecidableEq

/-- The certificates of a basic statement, the attestation certificate first. -/
def BasicStatement.x5c (statement : BasicStatement) : List Bytes :=
  statement.leaf :: statement.chain

/-- A statement that uses direct anonymous attestation. -/
structure EcdaaStatement where
  alg : Int64
  sig : Bytes
  /-- The identifier of the issuer key, if it is a byte string. -/
  keyId : Option Bytes
deriving DecidableEq

/-- A statement signed with the credential key. -/
structure SelfStatement where
  alg : Int64
  sig : Bytes
deriving DecidableEq

/-- A packed attestation statement. -/
inductive Statement where
  | basic (statement : BasicStatement)
  | ecdaa (statement : EcdaaStatement)
  | self (statement : SelfStatement)
deriving DecidableEq

namespace Statement

/-- The algorithm that a statement names. -/
def alg : Statement → Int64
  | basic s => s.alg
  | ecdaa s => s.alg
  | self s => s.alg

/-- The signature of a statement. -/
def sig : Statement → Bytes
  | basic s => s.sig
  | ecdaa s => s.sig
  | self s => s.sig

/-- Reads the algorithm, an integer of 64 bits. -/
def readAlg : Option Cbor → Except Error Int64
  | none => .error (.missingField .alg)
  | some (.integer n) =>
    if Int64.minValue.toInt ≤ n ∧ n ≤ Int64.maxValue.toInt then .ok (Int64.ofInt n)
    else .error (.invalidField .alg)
  | some _ => .error (.invalidField .alg)

/-- Reads the signature, a byte string. -/
def readSig : Option Cbor → Except Error Bytes
  | none => .error (.missingField .sig)
  | some (.bytes sig) => .ok sig
  | some _ => .error (.invalidField .sig)

/-- The byte strings of a list, if it holds nothing else. -/
def byteStrings? : List Cbor → Option (List Bytes)
  | [] => some []
  | .bytes b :: rest => (byteStrings? rest).map (b :: ·)
  | _ :: _ => none

/-- Reads the certificates: an array of byte strings that is not empty. -/
def readCertificates : Cbor → Except Error (Bytes × List Bytes)
  | .array items =>
    match byteStrings? items with
    | some (leaf :: chain) => .ok (leaf, chain)
    | _ => .error (.invalidField .x5c)
  | _ => .error (.invalidField .x5c)

/-- The identifier of an issuer key, if it is a byte string. -/
def keyIdOf : Cbor → Option Bytes
  | .bytes b => some b
  | _ => none

/-- Reads a statement. -/
def ofCbor : Cbor → Except Error Statement
  | .map entries =>
    let field := fun (f : Field) => Cbor.lookup f.key entries
    match readAlg (field .alg) with
    | .error e => .error e
    | .ok alg =>
      match readSig (field .sig) with
      | .error e => .error e
      | .ok sig =>
        match field .x5c with
        | some x5c =>
          match readCertificates x5c with
          | .error e => .error e
          | .ok (leaf, chain) => .ok (.basic ⟨alg, sig, leaf, chain⟩)
        | none =>
          match field .ecdaaKeyId with
          | some keyId => .ok (.ecdaa ⟨alg, sig, keyIdOf keyId⟩)
          | none => .ok (.self ⟨alg, sig⟩)
  | _ => .error .notMap

end Statement
end PackedAttestation
