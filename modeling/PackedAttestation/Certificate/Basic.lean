import PackedAttestation.Certificate.PublicKey
import PackedAttestation.Certificate.Name

/-! # Certificates

A certificate is its body, the algorithm and the bits of the signature over the
body.  Signatures are made with the key in the body.  The reader checks the content
of every field; headers may be in any form of the basic encoding.  The body is
kept as presented, so `toDer` gives back the same certificate with the headers and
the algorithm after the body in their shortest form.
-/
namespace PackedAttestation

open Der
open Ber

/-- A certificate. -/
structure Certificate where
  /-- The body, as presented. -/
  body : Bytes
  signatureAlgorithm : Certificate.Algorithm
  signature : BitString
  /-- The key of the subject, if it is one that loads. -/
  key : Option Certificate.PublicKey
deriving DecidableEq

namespace Certificate

/-- Reads a time of validity. -/
def time? (bs : Bytes) : Option (Bytes × Bytes) :=
  content? Tag.utcTime bs <|> content? Tag.generalizedTime bs

/-- Reads the two times of validity. -/
def validity? : Bytes → Option (Unit × Bytes) :=
  fields? fun bs => do
    let (_, bs) ← time? bs
    let (_, bs) ← time? bs
    return ((), bs)

/-- Reads the algorithm and the bits of a key. -/
def keyParts? : Bytes → Option ((Algorithm × BitString) × Bytes) :=
  fields? fun bs => do
    let (algorithm, bs) ← Algorithm.read? bs
    let (bits, bs) ← bitString? bs
    return ((algorithm, bits), bs)

/-- The most bytes that the identifier of the algorithm of a key may have. -/
def maxKeyOidSize : Nat := 586

/-- Reads the key of the subject. A key that does not load is no error, but an identifier of its
algorithm that is too long is. None loads whose header has more than eight bytes. -/
def subjectKey? (bs : Bytes) : Option (Option PublicKey × Bytes) := do
  let ((algorithm, bits), rest) ← keyParts? bs
  let key := if headersWithin 8 bs.length 0 bs then PublicKey.ofBits? algorithm bits.bytes else none
  if algorithm.oid.content.length ≤ maxKeyOidSize then some (key, rest) else none

/-- Reads the mark of a critical extension. -/
def critical? : Bytes → Option (Option Bytes × Bytes) :=
  optional? (·.isUniversal Tag.boolean) fun frame => do
    let (content, rest) ← frame.primitive?
    if content.length = 1 then some (content, rest) else none

/-- Reads an extension. -/
def extension? : Bytes → Option (Unit × Bytes) :=
  fields? fun bs => do
    let (_, bs) ← objectIdentifier? bs
    let (_, bs) ← critical? bs
    let (_, bs) ← content? Tag.octetString bs
    return ((), bs)

/-- Reads the body of a certificate, of which only the key is kept apart. -/
def bodyKey? : Bytes → Option (Option PublicKey × Bytes) :=
  fields? fun bs => do
    let (_, bs) ← optional? (·.isContextual 0) (explicit? (content? Tag.integer)) bs
    let (_, bs) ← content? Tag.integer bs
    let (_, bs) ← Algorithm.read? bs
    let bs ← Name.read? bs
    let (_, bs) ← validity? bs
    let bs ← Name.read? bs
    let (key, bs) ← subjectKey? bs
    let (_, bs) ← optional? (·.isContextual 1) bitStringOf? bs
    let (_, bs) ← optional? (·.isContextual 2) bitStringOf? bs
    let (_, bs) ← optional? (·.isContextual 3) (explicit? (listOf? Tag.sequence extension?)) bs
    return (key, bs)

/-- Reads a certificate, and returns what follows it. -/
def read? : Bytes → Option (Certificate × Bytes) :=
  fields? fun bs => do
    let (key, rest) ← bodyKey? bs
    let (signatureAlgorithm, after) ← Algorithm.read? rest
    let (signature, after) ← bitString? after
    return (⟨bs.take (bs.length - rest.length), signatureAlgorithm, signature, key⟩, after)

/-- Writes a certificate. -/
def toDer (certificate : Certificate) : Bytes :=
  encodeSequence <|
    certificate.body ++ certificate.signatureAlgorithm.encode ++
      encodeUniversal false Tag.bitString certificate.signature.content

end Certificate
end PackedAttestation
