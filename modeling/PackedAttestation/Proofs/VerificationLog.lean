import PackedAttestation.Proofs.SignatureFallback
import PackedAttestation.Proofs.VerificationEvents

/-! # The log tells the truth

A line of the log tells which event it is written of, as far as its message does: that the way of
attestation is chosen (`Event.isDispatch_line_iff`), that an algorithm is retried or is not
recognised, or what the verdict on a signature is (`Event.isVerdict_line_iff`).  So whoever reads
the log knows which way was taken, what was decided, and by which algorithm (`verifyPacked_log`).

The specimen whose attempt with SHA-384 ends in an error leaves a log that says so
(`Specimen.retry_logged`).
-/
namespace PackedAttestation

open Certificate (Outline)

/-! ### Messages -/

namespace Line

/-- The way of attestation is chosen. -/
def IsDispatch (line : Line) : Prop :=
  line.message = "packed basic attestation" ∨ line.message = "packed ecdaa attestation" ∨
    line.message = "packed self attestation"

/-- The signature of a basic statement is valid, or not. -/
def IsVerdict (line : Line) : Prop :=
  line.message = "packed x509 signature valid" ∨ line.message = "packed x509 signature invalid"

def IsRetry (line : Line) : Prop :=
  line.message = "retrying attestation signature with fallback algorithm"

def IsUnrecognised (line : Line) : Prop :=
  line.message = "unrecognised certificate signature algorithm"

instance : DecidablePred IsRetry := fun _ => inferInstanceAs (Decidable (_ = _))

end Line

/-- The line that the log of a statement starts with. -/
def Statement.dispatchLine : Statement → Line
  | basic s =>
      ⟨.debug, "packed basic attestation", [("certificates", toString s.x5c.length)]⟩
  | ecdaa s =>
      ⟨.debug, "packed ecdaa attestation", [("ecdaa_key_id", Event.bytesText s.keyId)]⟩
  | self _ => ⟨.debug, "packed self attestation", []⟩

theorem Statement.line_dispatch (statement : Statement) :
    statement.dispatch.line = statement.dispatchLine := by
  cases statement <;> rfl

theorem SignatureAlgorithm.name_inj {algorithm other : SignatureAlgorithm} :
    algorithm.name = other.name ↔ algorithm = other := by
  cases algorithm <;> cases other <;> decide

namespace Event

variable {event : Event} {events : List Event} {algorithm : SignatureAlgorithm}

theorem isDispatch_line_iff : event.line.IsDispatch ↔ event.stage = .dispatch := by
  cases event <;> simp [Line.IsDispatch, line, stage]

theorem isVerdict_line_iff : event.line.IsVerdict ↔ event.stage = .verdict := by
  cases event <;> simp [Line.IsVerdict, line, stage]

theorem isRetry_line_iff : event.line.IsRetry ↔ ∃ algorithm, event = .retrying algorithm := by
  cases event <;> simp [Line.IsRetry, line]

theorem isUnrecognised_line_iff :
    event.line.IsUnrecognised ↔ ∃ oid, event = .unrecognisedAlgorithm oid := by
  cases event <;> simp [Line.IsUnrecognised, line]

theorem line_eq_valid_iff :
    event.line = ⟨.trace, "packed x509 signature valid", [("alg", algorithm.name)]⟩ ↔
      event = .signatureValid algorithm := by
  cases event <;> simp [line, SignatureAlgorithm.name_inj]

theorem line_eq_invalid_iff :
    event.line = ⟨.trace, "packed x509 signature invalid", []⟩ ↔ event = .signatureInvalid := by
  cases event <;> simp [line]

theorem isRetry_line_eq_isSome : decide event.line.IsRetry = event.retried?.isSome := by
  cases event <;> simp [Line.IsRetry, line, retried?]

/-- The lines of retries are as many as the retries. -/
theorem countP_isRetry (events : List Event) :
    (events.map line).countP (fun line => line.IsRetry) = (retries events).length := by
  rw [List.countP_map, retries, List.length_filterMap_eq_countP]
  exact List.countP_congr fun event _ => by simp [isRetry_line_eq_isSome]

/-! ### Logs -/

/-- A log ends in a line that is written of one event only exactly if this event is the last. -/
theorem getLast?_map_line_eq_iff {written : Line} {last : Event}
    (h : ∀ event : Event, event.line = written ↔ event = last) :
    (events.map line).getLast? = some written ↔ events.getLast? = some last := by
  rw [List.getLast?_map, Option.map_eq_some_iff]
  simp [h]

theorem exists_isRetry_iff :
    (∃ written ∈ events.map line, written.IsRetry) ↔ ∃ algorithm, .retrying algorithm ∈ events := by
  simp only [List.mem_map, exists_exists_and_eq_and, isRetry_line_iff]
  constructor
  · rintro ⟨_, hmem, algorithm, rfl⟩
    exact ⟨algorithm, hmem⟩
  · rintro ⟨algorithm, hmem⟩
    exact ⟨_, hmem, algorithm, rfl⟩

theorem exists_isUnrecognised_iff :
    (∃ written ∈ events.map line, written.IsUnrecognised) ↔
      ∃ oid, .unrecognisedAlgorithm oid ∈ events := by
  simp only [List.mem_map, exists_exists_and_eq_and, isUnrecognised_line_iff]
  constructor
  · rintro ⟨_, hmem, oid, rfl⟩
    exact ⟨oid, hmem⟩
  · rintro ⟨oid, hmem⟩
    exact ⟨_, hmem, oid, rfl⟩

theorem forall_not_isVerdict_iff :
    (∀ written ∈ events.map line, ¬written.IsVerdict) ↔
      ∀ event ∈ events, event.stage ≠ .verdict := by
  simp only [List.forall_mem_map, isVerdict_line_iff, ne_eq]

end Event

/-! ### The log -/

/-- **The log tells the truth.** It is empty exactly if the value is no statement. Else it starts
with the line of the way of attestation that the statement is of, and no other line of that kind
follows. For a basic statement, the last line is that the signature is valid with an algorithm
exactly if the check of the signature is reached and finds that algorithm, and some such line is
last exactly if the statement is accepted; it is that the signature is invalid exactly if that is
the error; and there is no such verdict before the last line, and none at all where the error is
another one.

At most one line is that of a retry, and it names ECDSA with SHA-256. It is there exactly if the
statement is basic, the checks before that of the signature pass, the key of the leaf loads, and
the algorithm it declares is known, another one, and the attempt with it does not hold or ends in
an error. That the algorithm is not recognised is written exactly if the check is reached with a
key that loads and the declared algorithm is not known. Hence a statement is accepted with the
algorithm that its leaf declares exactly if neither is written. -/
theorem verifyPacked_log (value : Cbor) (auth : AuthenticatorData) (clientDataHash : Bytes)
    {log : List Line} {outcome : Except Error Attestation}
    (hlog : (verifyPacked value auth clientDataHash).log = log)
    (houtcome : (verifyPacked value auth clientDataHash).outcome = outcome) :
    (log = [] ↔ ∃ e, Statement.ofCbor value = .error e) ∧
    (∀ statement, Statement.ofCbor value = .ok statement →
      ∃ rest, log = statement.dispatchLine :: rest ∧ ∀ line ∈ rest, ¬line.IsDispatch) ∧
    (∀ s, Statement.ofCbor value = .ok (.basic s) →
      (∀ algorithm : SignatureAlgorithm,
        log.getLast? = some ⟨.trace, "packed x509 signature valid", [("alg", algorithm.name)]⟩ ↔
          ∃ leaf, s.ReachesSignature auth.credential.aaguid leaf ∧
            (leaf.verifySignature s.sig (auth.raw ++ clientDataHash)).outcome =
              .ok (some algorithm)) ∧
      ((∃ algorithm : SignatureAlgorithm,
        log.getLast? = some ⟨.trace, "packed x509 signature valid", [("alg", algorithm.name)]⟩) ↔
          ∃ a, outcome = .ok a) ∧
      (log.getLast? = some ⟨.trace, "packed x509 signature invalid", []⟩ ↔
        outcome = .error .invalidSignature) ∧
      (∀ line ∈ log.dropLast, ¬line.IsVerdict) ∧
      ∀ e, outcome = .error e → e ≠ .invalidSignature → ∀ line ∈ log, ¬line.IsVerdict) ∧
    log.countP (fun line => line.IsRetry) ≤ 1 ∧
    (∀ line ∈ log, line.IsRetry → line.fields = [("alg", "EcdsaSha256")]) ∧
    ((∃ line ∈ log, line.IsRetry) ↔
      ∃ s leaf key declared, Statement.ofCbor value = .ok (.basic s) ∧
        s.ReachesSignature auth.credential.aaguid leaf ∧ leaf.key = some key ∧
        leaf.declaredAlgorithm? = some declared ∧ declared ≠ .ecdsaSha256 ∧
        ((declared.attempt key s.sig (auth.raw ++ clientDataHash)).outcome = .ok (.ok false) ∨
          ∃ fault, (declared.attempt key s.sig (auth.raw ++ clientDataHash)).outcome =
            .ok (.error fault))) ∧
    ((∃ line ∈ log, line.IsUnrecognised) ↔
      ∃ s leaf key, Statement.ofCbor value = .ok (.basic s) ∧
        s.ReachesSignature auth.credential.aaguid leaf ∧ leaf.key = some key ∧
        leaf.declaredAlgorithm? = none) ∧
    ∀ s leaf (algorithm : SignatureAlgorithm), Statement.ofCbor value = .ok (.basic s) →
      s.ReachesSignature auth.credential.aaguid leaf →
      log.getLast? = some ⟨.trace, "packed x509 signature valid", [("alg", algorithm.name)]⟩ →
      (leaf.declaredAlgorithm? = some algorithm ↔
        (¬∃ line ∈ log, line.IsRetry) ∧ ¬∃ line ∈ log, line.IsUnrecognised) := by
  generalize htrial : verifyPacked value auth clientDataHash = trial at hlog houtcome
  obtain ⟨events, outcome'⟩ := trial
  obtain rfl : events.map Event.line = log := hlog
  obtain rfl : outcome' = outcome := houtcome
  have hvalid (algorithm : SignatureAlgorithm) :
      (events.map Event.line).getLast? =
          some ⟨.trace, "packed x509 signature valid", [("alg", algorithm.name)]⟩ ↔
        events.getLast? = some (.signatureValid algorithm) :=
    Event.getLast?_map_line_eq_iff fun _ => Event.line_eq_valid_iff
  have hinvalid :
      (events.map Event.line).getLast? = some ⟨.trace, "packed x509 signature invalid", []⟩ ↔
        events.getLast? = some .signatureInvalid :=
    Event.getLast?_map_line_eq_iff fun _ => Event.line_eq_invalid_iff
  -- From here on all is said of events: a line with one of these messages has one kind of event.
  refine ⟨?empty, ?dispatch, ?verdict, ?once, ?named, ?retried, ?unrecognised, ?told⟩
  case empty => rw [List.map_eq_nil_iff, events_eq_nil_iff htrial]
  case dispatch =>
    intro statement hparse
    obtain ⟨rest, rfl, hrest⟩ := exists_dispatch htrial hparse
    refine ⟨rest.map Event.line, by rw [List.map_cons, statement.line_dispatch], ?_⟩
    simpa only [List.forall_mem_map, Event.isDispatch_line_iff] using hrest
  case verdict =>
    intro s hparse
    obtain ⟨rest, rfl, hleaves⟩ := exists_leaves htrial hparse
    simp only [hvalid, hinvalid, ← List.map_dropLast, Event.forall_not_isVerdict_iff]
    exact ⟨fun algorithm => hleaves.ends_valid_iff rfl, hleaves.accepted_iff rfl,
      hleaves.ends_invalid_iff rfl, hleaves.not_verdict_of_mem_dropLast rfl,
      fun e => hleaves.not_verdict_of_error rfl⟩
  case once =>
    rw [Event.countP_isRetry]
    exact length_retries_events_le htrial
  case named =>
    rw [List.forall_mem_map]
    intro event hmem hretry
    obtain ⟨algorithm, rfl⟩ := Event.isRetry_line_iff.mp hretry
    obtain ⟨rfl, -⟩ := (retrying_mem_events_iff htrial).mp hmem
    rfl
  case retried =>
    simp only [Event.exists_isRetry_iff, retrying_mem_events_iff htrial, exists_eq_left,
      SignatureAlgorithm.not_accepts_iff_outcome_attempt]
  case unrecognised =>
    simp only [Event.exists_isUnrecognised_iff, unrecognised_mem_events_iff htrial]
    constructor
    · rintro ⟨oid, s, leaf, key, hparse, hreach, hkey, hdeclared, -⟩
      exact ⟨s, leaf, key, hparse, hreach, hkey, hdeclared⟩
    · rintro ⟨s, leaf, key, hparse, hreach, hkey, hdeclared⟩
      exact ⟨_, s, leaf, key, hparse, hreach, hkey, hdeclared, rfl⟩
  case told =>
    intro s leaf algorithm hparse hreach hlast
    obtain ⟨rest, rfl, hleaves⟩ := exists_leaves htrial hparse
    obtain ⟨leaf', hreach', hfound⟩ := (hleaves.ends_valid_iff rfl).mp ((hvalid algorithm).mp hlast)
    cases hreach.unique hreach'
    rw [declared_iff_of_found htrial hparse hreach hfound, Event.exists_isRetry_iff,
      Event.exists_isUnrecognised_iff, not_exists, not_exists]

namespace Specimen

theorem reachesSignature_leafSha384 :
    BasicStatement.ReachesSignature ⟨-7, infinitySig, leafSha384.toDer, []⟩
      auth.credential.aaguid leafSha384 := by
  refine ⟨outlineOf plain, [], decodes_leafSha384, .nil, rfl,
    ⟨some ⟨false, none⟩, rfl, by simp⟩, ?_⟩
  rintro extension ⟨⟩
  exact ⟨rfl, rfl⟩

theorem declaredAlgorithm?_leafSha384 : leafSha384.declaredAlgorithm? = some .ecdsaSha384 := by
  decide

theorem outcome_attempt_sha384 :
    (SignatureAlgorithm.ecdsaSha384.attempt infinityKey infinitySig
      (auth.raw ++ clientDataHash)).outcome = .ok (.error .pointAtInfinity) := by
  have hkind : infinityKey.kind = SignatureAlgorithm.ecdsaSha384.keyKind := rfl
  rw [SignatureAlgorithm.outcome_attempt, if_pos hkind]
  exact congrArg Except.ok verify_infinityKey_sha384

theorem outcome_verifySignature_leafSha384 :
    (leafSha384.verifySignature infinitySig (auth.raw ++ clientDataHash)).outcome =
      .ok (some .ecdsaSha256) := by
  have hfails : ¬SignatureAlgorithm.Accepts infinityKey infinitySig (auth.raw ++ clientDataHash)
      .ecdsaSha384 :=
    SignatureAlgorithm.not_accepts_iff_outcome_attempt.mpr (.inr ⟨_, outcome_attempt_sha384⟩)
  rw [Certificate.outcome_verifySignature_of_key (show leafSha384.key = some infinityKey from rfl),
    declaredAlgorithm?_leafSha384,
    (SignatureAlgorithm.firstAccepted?_of_not_declared hfails).mpr ⟨rfl, accepts_infinityKey⟩]

/-- The leaf that declares SHA-384 is accepted with SHA-256 after an attempt that ended in an error,
and its log says so. -/
theorem retry_logged :
    ∃ log a, (verifyPacked (signedValue infinitySig leafSha384.toDer) auth clientDataHash).log =
        log ∧
      (verifyPacked (signedValue infinitySig leafSha384.toDer) auth clientDataHash).outcome =
        .ok a ∧
      log.getLast? = some ⟨.trace, "packed x509 signature valid", [("alg", "EcdsaSha256")]⟩ ∧
      (∃ line ∈ log, line.IsRetry) ∧ log.countP (fun line => line.IsRetry) ≤ 1 ∧
      ¬∃ line ∈ log, line.IsUnrecognised := by
  have hparse : Statement.ofCbor (signedValue infinitySig leafSha384.toDer) =
      .ok (.basic ⟨-7, infinitySig, leafSha384.toDer, []⟩) := ofCbor_signedValue
  obtain ⟨-, -, hverdict, honce, -, hretried, hunrecognised, -⟩ :=
    verifyPacked_log (signedValue infinitySig leafSha384.toDer) auth clientDataHash rfl rfl
  obtain ⟨hvalid, haccepted, -⟩ := hverdict _ hparse
  have hlast := (hvalid .ecdsaSha256).mpr
    ⟨leafSha384, reachesSignature_leafSha384, outcome_verifySignature_leafSha384⟩
  obtain ⟨a, ha⟩ := haccepted.mp ⟨_, hlast⟩
  refine ⟨_, a, rfl, ha, hlast, hretried.mpr ?_, honce, ?_⟩
  · exact ⟨_, leafSha384, infinityKey, .ecdsaSha384, hparse, reachesSignature_leafSha384, rfl,
      declaredAlgorithm?_leafSha384, by decide, .inr ⟨_, outcome_attempt_sha384⟩⟩
  · rw [hunrecognised]
    rintro ⟨s, leaf, _, hparse', hreach', -, hdeclared⟩
    cases hparse.symm.trans hparse'
    cases reachesSignature_leafSha384.unique hreach'
    cases declaredAlgorithm?_leafSha384.symm.trans hdeclared

end Specimen
end PackedAttestation
