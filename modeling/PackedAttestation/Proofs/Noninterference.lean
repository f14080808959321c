import PackedAttestation.Proofs.LeafExtensions

/-! # What the outcome depends on

Two verifications have the same outcome as soon as their statements are of the same type
and agree on what that type is meant to look at (`outcome_verifyPacked_congr`).  A basic
statement is judged by its signature and certificates, the AAGUID, and the bytes that are
signed; a self statement by its algorithm and signature, the credential key, and the bytes
that are signed; an ECDAA statement by nothing.  How the bytes that are signed are split into
authenticator data and hash does not matter to any of them.

The events noted on the way may differ: a basic statement notes the algorithm it names, but
does not use it.
-/
namespace PackedAttestation

/-! ### Statements of one type -/

/-- The algorithm that a basic statement names is noted, and not looked at again. -/
theorem BasicStatement.outcome_verify_congr {s s' : BasicStatement} {aaguid : Aaguid}
    {message : Bytes} (hsig : s.sig = s'.sig) (hx5c : s.x5c = s'.x5c) :
    (s.verify aaguid message).outcome = (s'.verify aaguid message).outcome := by
  obtain ⟨alg, sig, leaf, chain⟩ := s
  obtain ⟨alg', sig', leaf', chain'⟩ := s'
  obtain rfl : sig = sig' := hsig
  obtain ⟨rfl, rfl⟩ : leaf = leaf' ∧ chain = chain' := List.cons.inj hx5c
  rw [verify, verify, Trial.outcome_note_bind, Trial.outcome_note_bind]

section Packed

variable {value : Cbor} {auth : AuthenticatorData} {clientDataHash : Bytes}

/-- What reads as a statement is verified as that statement. -/
theorem outcome_verifyPacked_of_ofCbor {s : Statement} (h : Statement.ofCbor value = .ok s) :
    (verifyPacked value auth clientDataHash).outcome = (s.verify auth clientDataHash).outcome := by
  rw [verifyPacked, h]
  rfl

theorem outcome_verifyPacked_of_basic {s : BasicStatement}
    (h : Statement.ofCbor value = .ok (.basic s)) :
    (verifyPacked value auth clientDataHash).outcome =
      (s.verify auth.credential.aaguid (auth.raw ++ clientDataHash)).outcome :=
  outcome_verifyPacked_of_ofCbor h

theorem outcome_verifyPacked_of_ecdaa {s : EcdaaStatement}
    (h : Statement.ofCbor value = .ok (.ecdaa s)) :
    (verifyPacked value auth clientDataHash).outcome = .error .ecdaaUnsupported :=
  outcome_verifyPacked_of_ofCbor h

theorem outcome_verifyPacked_of_self {s : SelfStatement}
    (h : Statement.ofCbor value = .ok (.self s)) :
    (verifyPacked value auth clientDataHash).outcome =
      (s.verify auth.credential.publicKey (auth.raw ++ clientDataHash)).outcome :=
  outcome_verifyPacked_of_ofCbor h

end Packed

/-! ### Two runs -/

/-- **The outcome depends on nothing but what each type of statement is meant to look at.** Two
basic statements with the same signature and certificates have the same outcome if the AAGUIDs
and the signed bytes are the same, whatever algorithms they name, and whatever the credentials
and their keys are. Two self statements have the same outcome if they agree on algorithm and
signature, and the credential keys and the signed bytes are the same, whatever the AAGUIDs and
the credentials are. Two ECDAA statements always have the same outcome, an error. -/
theorem outcome_verifyPacked_congr (value value' : Cbor) (auth auth' : AuthenticatorData)
    (clientDataHash clientDataHash' : Bytes) :
    (∀ s s' : BasicStatement,
      Statement.ofCbor value = .ok (.basic s) → Statement.ofCbor value' = .ok (.basic s') →
      s.sig = s'.sig → s.x5c = s'.x5c →
      auth.credential.aaguid = auth'.credential.aaguid →
      auth.raw ++ clientDataHash = auth'.raw ++ clientDataHash' →
      (verifyPacked value auth clientDataHash).outcome =
        (verifyPacked value' auth' clientDataHash').outcome) ∧
    (∀ s s' : SelfStatement,
      Statement.ofCbor value = .ok (.self s) → Statement.ofCbor value' = .ok (.self s') →
      s.alg = s'.alg → s.sig = s'.sig →
      auth.credential.publicKey = auth'.credential.publicKey →
      auth.raw ++ clientDataHash = auth'.raw ++ clientDataHash' →
      (verifyPacked value auth clientDataHash).outcome =
        (verifyPacked value' auth' clientDataHash').outcome) ∧
    (∀ s s' : EcdaaStatement,
      Statement.ofCbor value = .ok (.ecdaa s) → Statement.ofCbor value' = .ok (.ecdaa s') →
      (verifyPacked value auth clientDataHash).outcome = .error .ecdaaUnsupported ∧
        (verifyPacked value' auth' clientDataHash').outcome = .error .ecdaaUnsupported) := by
  refine ⟨?basic, ?self, ?ecdaa⟩
  case basic =>
    intro s s' hs hs' hsig hx5c haaguid hmessage
    rw [outcome_verifyPacked_of_basic hs, outcome_verifyPacked_of_basic hs', haaguid, hmessage]
    exact BasicStatement.outcome_verify_congr hsig hx5c
  case self =>
    intro s s' hs hs' halg hsig hkey hmessage
    obtain rfl : s = s' := by
      cases s
      cases s'
      cases halg
      cases hsig
      rfl
    rw [outcome_verifyPacked_of_self hs, outcome_verifyPacked_of_self hs', hkey, hmessage]
  case ecdaa =>
    intro s s' hs hs'
    exact ⟨outcome_verifyPacked_of_ecdaa hs, outcome_verifyPacked_of_ecdaa hs'⟩

namespace Specimen

/-- A credential of the same model with another identifier and a key of another type. The
authenticator data stops after ten bytes, and the rest of the signed bytes is the hash. -/
def otherAuth : AuthenticatorData where
  raw := auth.raw.take 10
  credential := ⟨aaguid, [7], ⟨.eddsa, .okp ⟨.ed25519, []⟩⟩⟩

/-- The specimen in another order, with an algorithm that is not registered and a key
identifier. -/
def otherValue : Cbor :=
  .map [(.text "ecdaaKeyId", .bool true), (.text "x5c", .array [.bytes (leaf plain).toDer]),
    (.text "sig", .bytes sig), (.text "alg", .integer 12345)]

theorem ofCbor_otherValue :
    Statement.ofCbor otherValue = .ok (.basic ⟨12345, sig, (leaf plain).toDer, []⟩) := by
  rw [Statement.ofCbor_eq_ok_iff]
  exact ⟨_, rfl, rfl, rfl, rfl⟩

/-- A self statement with the signature of the specimen. -/
def selfValue : Cbor :=
  .map [(.text "alg", .integer (-7)), (.text "sig", .bytes sig)]

def ecdaaValue (keyId : Cbor) : Cbor :=
  .map [(.text "alg", .integer (-7)), (.text "sig", .bytes []), (.text "ecdaaKeyId", keyId)]

/-- The specimen of a basic statement and one that differs in all that does not matter; a self
statement about two models of authenticators; and two ECDAA statements. -/
theorem same_outcomes :
    (verifyPacked (value plain) auth clientDataHash).outcome =
        (verifyPacked otherValue otherAuth (auth.raw.drop 10 ++ clientDataHash)).outcome ∧
      (verifyPacked selfValue auth clientDataHash).outcome =
        (verifyPacked selfValue
          ⟨auth.raw, ⟨otherAaguid, [], auth.credential.publicKey⟩⟩ clientDataHash).outcome ∧
      (verifyPacked (ecdaaValue (.bytes [1])) auth clientDataHash).outcome =
        .error .ecdaaUnsupported ∧
      (verifyPacked (ecdaaValue .null) otherAuth []).outcome = .error .ecdaaUnsupported := by
  have hmessage : auth.raw ++ clientDataHash =
      otherAuth.raw ++ (auth.raw.drop 10 ++ clientDataHash) := by
    rw [← List.append_assoc, show otherAuth.raw = auth.raw.take 10 from rfl,
      List.take_append_drop]
  refine ⟨?basic, ?self, ?ecdaa⟩
  case basic =>
    exact (outcome_verifyPacked_congr _ _ auth otherAuth _ _).1 _ _ ofCbor_value ofCbor_otherValue
      rfl rfl rfl hmessage
  case self =>
    exact (outcome_verifyPacked_congr selfValue selfValue auth _ _ _).2.1 ⟨-7, sig⟩ ⟨-7, sig⟩ rfl
      rfl rfl rfl rfl rfl
  case ecdaa =>
    exact (outcome_verifyPacked_congr _ _ auth otherAuth clientDataHash []).2.2 ⟨-7, [], some [1]⟩
      ⟨-7, [], none⟩ rfl rfl

end Specimen
end PackedAttestation
