import PackedAttestation.Proofs.BasicErrors
import PackedAttestation.Proofs.SelfVerification
import PackedAttestation.Proofs.SignatureLog

/-! # The events of a verification

A verification notes first which way of attestation is taken.  With a basic statement it
goes on with what is seen of the certificates, then with the attempts on the signature, and
ends in a verdict, which is that of the outcome (`BasicStatement.Leaves`).  So what is noted
about a signature is what its check notes, if it is reached (`mem_events_iff`), and from that
it is told what was retried and what was not recognised (`retrying_mem_events_iff`,
`unrecognised_mem_events_iff`).
-/
namespace PackedAttestation

open Certificate (Outline)

/-! ### Before the signature -/

namespace Certificate.Outline

variable {outline : Outline}

theorem within_checkProfile :
    outline.checkProfile.Within (·.stage = .certificates) (· ≠ .invalidSignature) := by
  unfold checkProfile
  split
  · exact .bind (.note rfl) fun _ => .fail (by rintro ⟨⟩)
  · split
    · exact .fail (by rintro ⟨⟩)
    · exact .fail (by rintro ⟨⟩)
    · exact .pure ()

theorem within_checkAaguid {expected : Aaguid} :
    (outline.checkAaguid expected).Within (·.stage = .certificates) (· ≠ .invalidSignature) := by
  unfold checkAaguid
  split
  · exact .pure false
  split
  · exact .fail (by rintro ⟨⟩)
  split
  · exact .fail (by rintro ⟨⟩)
  split
  · exact .bind (.note rfl) fun _ => .fail (by rintro ⟨⟩)
  split
  · exact .pure true
  · exact .fail (by rintro ⟨⟩)

end Certificate.Outline

theorem CertificateFault.within_lift {α : Type} {x : Except CertificateFault α} {p : Event → Prop} :
    (Trial.ofExcept (lift x)).Within p (· ≠ .invalidSignature) := by
  refine .ofExcept ?_
  rintro e he rfl
  cases x <;> cases he

namespace BasicStatement

/-- The checks before that of the signature pass, and the signature is to be checked by the key
of `leaf`. -/
def ReachesSignature (s : BasicStatement) (aaguid : Aaguid) (leaf : Certificate) : Prop :=
  ∃ outline chain, Certificate.Decodes s.leaf outline leaf ∧
    List.Forall₂ Certificate.DecodesAs s.chain chain ∧
    outline.version = 2 ∧ outline.DeniesAuthority ∧
    ∀ extension, outline.extensions.find? (·.oid == Oid.aaguidExtension) = some extension →
      extension.Tells aaguid

theorem ReachesSignature.unique {s : BasicStatement} {aaguid : Aaguid} {leaf leaf' : Certificate}
    (h : s.ReachesSignature aaguid leaf) (h' : s.ReachesSignature aaguid leaf') : leaf = leaf' := by
  obtain ⟨_, _, ⟨-, hread⟩, -⟩ := h
  obtain ⟨_, _, ⟨-, hread'⟩, -⟩ := h'
  cases hread.symm.trans hread'
  rfl

variable {s : BasicStatement} {aaguid : Aaguid} {message : Bytes} {leaf : Certificate}

theorem within_examine :
    (s.examine aaguid).Within (·.stage = .certificates) (· ≠ .invalidSignature) := by
  refine .bind (.note rfl) fun _ => .bind CertificateFault.within_lift fun _ =>
    .bind (.note rfl) fun _ => .bind CertificateFault.within_lift fun _ =>
    .bind Outline.within_checkProfile fun _ => .bind Outline.within_checkAaguid fun present => ?_
  cases present with
  | true => exact .pure _
  | false => exact .bind (.note rfl) fun _ => .pure _

theorem reachesSignature_iff :
    s.ReachesSignature aaguid leaf ↔
      ∃ chain, (s.examine aaguid).outcome = .ok (leaf, chain) := by
  simp only [ReachesSignature, outcome_examine_eq_ok_iff]
  exact exists_comm

/-! ### What a basic statement leaves behind -/

/-- What is left behind by the verification of a basic statement: it is stopped before the
signature, or the signature is invalid, or it is valid. -/
inductive Leaves (s : BasicStatement) (aaguid : Aaguid) (message : Bytes) :
    Trial Attestation → Prop where
  | stopped {noted : List Event} {e : Error}
      (unreached : ∀ leaf, ¬s.ReachesSignature aaguid leaf)
      (before : ∀ event ∈ noted, event.stage = .certificates)
      (other : e ≠ .invalidSignature) :
      s.Leaves aaguid message ⟨noted, .error e⟩
  | invalid {noted : List Event} {leaf : Certificate}
      (reached : s.ReachesSignature aaguid leaf)
      (before : ∀ event ∈ noted, event.stage = .certificates)
      (found : (leaf.verifySignature s.sig message).outcome = .ok none) :
      s.Leaves aaguid message
        ⟨noted ++ (leaf.verifySignature s.sig message).events ++ [.signatureInvalid],
          .error .invalidSignature⟩
  | valid {noted : List Event} {leaf : Certificate} {chain : List Certificate}
      {algorithm : SignatureAlgorithm}
      (reached : s.ReachesSignature aaguid leaf)
      (before : ∀ event ∈ noted, event.stage = .certificates)
      (found : (leaf.verifySignature s.sig message).outcome = .ok (some algorithm)) :
      s.Leaves aaguid message
        ⟨noted ++ (leaf.verifySignature s.sig message).events ++ [.signatureValid algorithm],
          .ok ⟨.basic (leaf :: chain), .packed aaguid⟩⟩

theorem leaves_verify (s : BasicStatement) (aaguid : Aaguid) (message : Bytes) :
    s.Leaves aaguid message (s.verify aaguid message) := by
  rw [verify_eq_examine_bind]
  cases houtcome : (s.examine aaguid).outcome with
  | error e =>
    -- Stopped before the signature: nothing of what is noted is about it, nor is the error.
    rw [Trial.bind_of_error houtcome]
    refine .stopped ?_ within_examine.event (within_examine.error e houtcome)
    intro leaf hreach
    obtain ⟨chain, hok⟩ := reachesSignature_iff.mp hreach
    cases houtcome.symm.trans hok
  | ok result =>
    obtain ⟨leaf, chain⟩ := result
    have hreach : s.ReachesSignature aaguid leaf := reachesSignature_iff.mpr ⟨chain, houtcome⟩
    obtain ⟨found, hfound⟩ := leaf.exists_outcome_verifySignature s.sig message
    rw [Trial.bind_of_ok houtcome]
    dsimp only
    unfold judge
    rw [Trial.bind_of_ok hfound, ← List.append_assoc]
    cases found with
    | none => exact .invalid hreach within_examine.event hfound
    | some algorithm => exact .valid hreach within_examine.event hfound

namespace Leaves

variable {first : Event} {events : List Event} {outcome : Except Error Attestation}
  {algorithm : SignatureAlgorithm}

/-- No event is that of choosing the way of attestation. -/
theorem stage_ne_dispatch (h : s.Leaves aaguid message ⟨events, outcome⟩) :
    ∀ event ∈ events, event.stage ≠ .dispatch := by
  intro event hmem
  cases h with
  | stopped _ before _ => exact Event.stage_ne before (by decide) event hmem
  | invalid _ before _ | valid _ before _ =>
    simp only [List.mem_append, List.mem_singleton] at hmem
    rcases hmem with (hmem | hmem) | rfl
    · exact Event.stage_ne before (by decide) event hmem
    · rw [Certificate.stage_of_verifySignature hmem]
      decide
    · rintro ⟨⟩

/-- What is noted about the signature is what its check notes, if it is reached. -/
theorem mem_iff (h : s.Leaves aaguid message ⟨events, outcome⟩) {event : Event}
    (hstage : event.stage = .signature) :
    event ∈ events ↔ ∃ leaf, s.ReachesSignature aaguid leaf ∧
      event ∈ (leaf.verifySignature s.sig message).events := by
  have hnoted {noted : List Event} (before : ∀ event ∈ noted, event.stage = .certificates) :
      event ∉ noted := fun hmem => Event.stage_ne before (by decide) event hmem hstage
  have hverdict {verdict : Event} (h : verdict.stage = .verdict) : event ≠ verdict := by
    rintro rfl
    cases hstage.symm.trans h
  cases h with
  | stopped unreached before _ =>
    refine iff_of_false (hnoted before) ?_
    rintro ⟨leaf, hreach, -⟩
    exact unreached leaf hreach
  | invalid reached before _ | valid reached before _ =>
    rw [List.mem_append, List.mem_append, or_iff_right (hnoted before), List.mem_singleton,
      or_iff_left (hverdict rfl)]
    constructor
    · intro hmem
      exact ⟨_, reached, hmem⟩
    · rintro ⟨leaf, hreach, hmem⟩
      rw [reached.unique hreach]
      exact hmem

theorem length_retries_le (h : s.Leaves aaguid message ⟨events, outcome⟩) :
    (Event.retries events).length ≤ 1 := by
  have hnoted {noted : List Event} (before : ∀ event ∈ noted, event.stage = .certificates) :
      Event.retries noted = [] := Event.retries_eq_nil (Event.stage_ne before (by decide))
  cases h with
  | stopped _ before _ =>
    rw [hnoted before]
    exact Nat.zero_le 1
  | invalid _ before _ | valid _ before _ =>
    rw [Event.retries_append, Event.retries_append, hnoted before, List.nil_append]
    show (Event.retries _ ++ []).length ≤ 1
    rw [List.append_nil]
    exact Certificate.length_retries_verifySignature_le

/-! The verdict is looked for among all events, with that of choosing the way in front. -/

theorem getLast?_concat_eq_iff {noted : List Event} {verdict event : Event} :
    (first :: (noted ++ [verdict])).getLast? = some event ↔ verdict = event := by
  rw [← List.cons_append, List.getLast?_concat, Option.some.injEq]

theorem not_verdict_of_stopped (hfirst : first.stage = .dispatch)
    (before : ∀ event ∈ events, event.stage = .certificates) :
    ∀ event ∈ first :: events, event.stage ≠ .verdict := by
  rw [List.forall_mem_cons]
  refine ⟨?_, Event.stage_ne before (by decide)⟩
  rw [hfirst]
  decide

theorem getLast?_ne_of_stopped (hfirst : first.stage = .dispatch)
    (before : ∀ event ∈ events, event.stage = .certificates) {verdict : Event}
    (hverdict : verdict.stage = .verdict) : (first :: events).getLast? ≠ some verdict := by
  intro hlast
  exact not_verdict_of_stopped hfirst before verdict (List.mem_of_getLast? hlast) hverdict

/-- The last event is that an algorithm is valid exactly if the check of the signature
is reached and finds that algorithm. -/
theorem ends_valid_iff (h : s.Leaves aaguid message ⟨events, outcome⟩)
    (hfirst : first.stage = .dispatch) :
    (first :: events).getLast? = some (.signatureValid algorithm) ↔
      ∃ leaf, s.ReachesSignature aaguid leaf ∧
        (leaf.verifySignature s.sig message).outcome = .ok (some algorithm) := by
  cases h with
  | stopped unreached before _ =>
    refine iff_of_false (getLast?_ne_of_stopped hfirst before rfl) ?_
    rintro ⟨leaf, hreach, -⟩
    exact unreached leaf hreach
  | invalid reached _ found =>
    rw [getLast?_concat_eq_iff]
    constructor
    · rintro ⟨⟩
    · rintro ⟨leaf, hreach, hfound⟩
      cases reached.unique hreach
      cases found.symm.trans hfound
  | valid reached _ found =>
    rw [getLast?_concat_eq_iff]
    constructor
    · rintro ⟨⟩
      exact ⟨_, reached, found⟩
    · rintro ⟨leaf, hreach, hfound⟩
      cases reached.unique hreach
      cases found.symm.trans hfound
      rfl

/-- The last event is that some algorithm is valid exactly if the statement is accepted. -/
theorem accepted_iff (h : s.Leaves aaguid message ⟨events, outcome⟩)
    (hfirst : first.stage = .dispatch) :
    (∃ algorithm, (first :: events).getLast? = some (.signatureValid algorithm)) ↔
      ∃ a, outcome = .ok a := by
  cases h with
  | stopped _ before _ =>
    refine iff_of_false ?_ (by rintro ⟨a, ⟨⟩⟩)
    rintro ⟨algorithm, hlast⟩
    exact getLast?_ne_of_stopped hfirst before rfl hlast
  | invalid _ _ _ | valid _ _ _ =>
    simp only [getLast?_concat_eq_iff]
    simp

/-- The last event is that the signature is invalid exactly if that is the error. -/
theorem ends_invalid_iff (h : s.Leaves aaguid message ⟨events, outcome⟩)
    (hfirst : first.stage = .dispatch) :
    (first :: events).getLast? = some .signatureInvalid ↔ outcome = .error .invalidSignature := by
  cases h with
  | stopped _ before other =>
    refine iff_of_false (getLast?_ne_of_stopped hfirst before rfl) ?_
    rintro ⟨⟩
    exact other rfl
  | invalid _ _ _ =>
    rw [getLast?_concat_eq_iff]
    exact iff_of_true rfl rfl
  | valid _ _ _ =>
    rw [getLast?_concat_eq_iff]
    exact iff_of_false (by rintro ⟨⟩) (by rintro ⟨⟩)

/-- There is no verdict anywhere else. -/
theorem not_verdict_of_mem_dropLast (h : s.Leaves aaguid message ⟨events, outcome⟩)
    (hfirst : first.stage = .dispatch) :
    ∀ event ∈ (first :: events).dropLast, event.stage ≠ .verdict := by
  intro event hmem
  cases h with
  | stopped _ before _ =>
    exact not_verdict_of_stopped hfirst before event ((List.dropLast_sublist _).subset hmem)
  | invalid _ before _ | valid _ before _ =>
    rw [← List.cons_append, List.dropLast_concat, ← List.cons_append, List.mem_append] at hmem
    rcases hmem with hmem | hmem
    · exact not_verdict_of_stopped hfirst before event hmem
    · rw [Certificate.stage_of_verifySignature hmem]
      decide

/-- Where the error is another one there is no verdict at all. -/
theorem not_verdict_of_error (h : s.Leaves aaguid message ⟨events, outcome⟩)
    (hfirst : first.stage = .dispatch) {e : Error} (he : outcome = .error e)
    (hother : e ≠ .invalidSignature) : ∀ event ∈ first :: events, event.stage ≠ .verdict := by
  cases h with
  | stopped _ before _ => exact not_verdict_of_stopped hfirst before
  | invalid _ _ _ =>
    cases he
    exact absurd rfl hother
  | valid _ _ _ => cases he

end Leaves

end BasicStatement

/-! ### Statements -/

namespace Statement

/-- The event of choosing the way of attestation. -/
def dispatch : Statement → Event
  | basic s => .basicAttestation s.x5c.length
  | ecdaa s => .ecdaaAttestation s.keyId
  | self _ => .selfAttestation

/-- The verification on the way chosen. -/
def check (statement : Statement) (auth : AuthenticatorData) (clientDataHash : Bytes) :
    Trial Attestation :=
  match statement with
  | basic s => s.verify auth.credential.aaguid (auth.raw ++ clientDataHash)
  | ecdaa _ => Trial.fail .ecdaaUnsupported
  | self s => s.verify auth.credential.publicKey (auth.raw ++ clientDataHash)

theorem stage_dispatch (statement : Statement) : statement.dispatch.stage = .dispatch := by
  cases statement <;> rfl

end Statement

theorem Ecdsa.within_loadNumber {bs : Bytes} {p : Event → Prop} :
    (loadNumber bs).Within p fun _ => True := by
  unfold loadNumber
  split
  · exact .fail trivial
  · exact .pure _

theorem Ecdsa.within_verifyP256 {point : Curve.Point} {signature : Ecdsa.Signature}
    {message : Bytes} :
    (verifyP256 point signature message).Within (·.stage = .selfSignature) fun _ => True := by
  refine .bind within_loadNumber fun r => .bind within_loadNumber fun s => ?_
  split
  · exact .pure _
  · exact .bind (.note rfl) fun _ => .pure _

theorem SelfStatement.within_verify {s : SelfStatement} {key : Cose.Key} {message : Bytes} :
    (s.verify key message).Within (·.stage = .selfSignature) fun _ => True := by
  unfold verify
  split
  · exact .fail trivial
  split
  · exact .fail trivial
  split
  · exact .fail trivial
  split
  · exact .bind (.note rfl) fun _ => .fail trivial
  split
  · exact .fail trivial
  refine .bind Ecdsa.within_verifyP256 fun valid => ?_
  cases valid with
  | true => exact .pure _
  | false => exact .bind (.note rfl) fun _ => .fail trivial

section Events

variable {value : Cbor} {auth : AuthenticatorData} {clientDataHash : Bytes} {events : List Event}
  {outcome : Except Error Attestation}

theorem verifyPacked_of_error {e : Error} (h : Statement.ofCbor value = .error e) :
    verifyPacked value auth clientDataHash = ⟨[], .error e⟩ := by
  rw [verifyPacked, h]
  rfl

theorem verifyPacked_of_ok {statement : Statement} (h : Statement.ofCbor value = .ok statement) :
    verifyPacked value auth clientDataHash =
      ⟨statement.dispatch :: (statement.check auth clientDataHash).events,
        (statement.check auth clientDataHash).outcome⟩ := by
  rw [verifyPacked, h]
  cases statement <;> rfl

theorem exists_leaves (h : verifyPacked value auth clientDataHash = ⟨events, outcome⟩)
    {s : BasicStatement} (hparse : Statement.ofCbor value = .ok (.basic s)) :
    ∃ rest, events = .basicAttestation s.x5c.length :: rest ∧
      s.Leaves auth.credential.aaguid (auth.raw ++ clientDataHash) ⟨rest, outcome⟩ := by
  rw [verifyPacked_of_ok hparse] at h
  cases h
  exact ⟨_, rfl, s.leaves_verify _ _⟩

namespace Statement

/-- On whatever way, the way is not chosen again. -/
theorem stage_ne_dispatch_of_check {statement : Statement} {event : Event}
    (h : event ∈ (statement.check auth clientDataHash).events) : event.stage ≠ .dispatch := by
  cases statement with
  | basic s => exact (s.leaves_verify _ _).stage_ne_dispatch event h
  | ecdaa _ => cases h
  | self s =>
    rw [SelfStatement.within_verify.event event h]
    decide

/-- Only a basic statement notes anything about the signature of a certificate key. -/
theorem basic_of_stage_signature {statement : Statement} {event : Event}
    (h : event ∈ statement.dispatch :: (statement.check auth clientDataHash).events)
    (hstage : event.stage = .signature) : ∃ s, statement = .basic s := by
  rcases List.mem_cons.mp h with rfl | h
  · cases hstage.symm.trans statement.stage_dispatch
  cases statement with
  | basic s => exact ⟨s, rfl⟩
  | ecdaa _ => cases h
  | self s => cases hstage.symm.trans (SelfStatement.within_verify.event event h)

theorem length_retries_le {statement : Statement} :
    (Event.retries (statement.dispatch :: (statement.check auth clientDataHash).events)).length
      ≤ 1 := by
  by_cases hbasic : ∃ s, statement = .basic s
  · obtain ⟨s, rfl⟩ := hbasic
    exact (s.leaves_verify _ _).length_retries_le
  · rw [Event.retries_eq_nil fun event hmem hstage =>
      hbasic (basic_of_stage_signature hmem hstage)]
    exact Nat.zero_le 1

end Statement

/-- What is noted about the signature of a certificate key is what the check of a basic
statement notes that reaches it. -/
theorem mem_events_iff (h : verifyPacked value auth clientDataHash = ⟨events, outcome⟩)
    {event : Event} (hstage : event.stage = .signature) :
    event ∈ events ↔ ∃ s leaf, Statement.ofCbor value = .ok (.basic s) ∧
      s.ReachesSignature auth.credential.aaguid leaf ∧
      event ∈ (leaf.verifySignature s.sig (auth.raw ++ clientDataHash)).events := by
  cases hparse : Statement.ofCbor value with
  | error e =>
    rw [verifyPacked_of_error hparse] at h
    cases h
    simp
  | ok statement =>
    rw [verifyPacked_of_ok hparse] at h
    cases h
    constructor
    · intro hmem
      obtain ⟨s, rfl⟩ := Statement.basic_of_stage_signature hmem hstage
      rcases List.mem_cons.mp hmem with rfl | hmem
      · cases hstage
      obtain ⟨leaf, hreach, hsignature⟩ := ((s.leaves_verify _ _).mem_iff hstage).mp hmem
      exact ⟨s, leaf, rfl, hreach, hsignature⟩
    · rintro ⟨s, leaf, ⟨⟩, hreach, hsignature⟩
      exact List.mem_cons_of_mem _
        (((s.leaves_verify _ _).mem_iff hstage).mpr ⟨leaf, hreach, hsignature⟩)

theorem mem_events_iff_of_reaches (h : verifyPacked value auth clientDataHash = ⟨events, outcome⟩)
    {s : BasicStatement} {leaf : Certificate} (hparse : Statement.ofCbor value = .ok (.basic s))
    (hreach : s.ReachesSignature auth.credential.aaguid leaf) {event : Event}
    (hstage : event.stage = .signature) :
    event ∈ events ↔
      event ∈ (leaf.verifySignature s.sig (auth.raw ++ clientDataHash)).events := by
  rw [mem_events_iff h hstage]
  constructor
  · rintro ⟨s', leaf', hparse', hreach', hmem⟩
    cases hparse.symm.trans hparse'
    rw [hreach.unique hreach']
    exact hmem
  · intro hmem
    exact ⟨s, leaf, hparse, hreach, hmem⟩

/-! ### What is noted -/

theorem events_eq_nil_iff (h : verifyPacked value auth clientDataHash = ⟨events, outcome⟩) :
    events = [] ↔ ∃ e, Statement.ofCbor value = .error e := by
  cases hparse : Statement.ofCbor value with
  | error e =>
    rw [verifyPacked_of_error hparse] at h
    cases h
    exact iff_of_true rfl ⟨e, rfl⟩
  | ok statement =>
    rw [verifyPacked_of_ok hparse] at h
    cases h
    exact iff_of_false (by rintro ⟨⟩) (by rintro ⟨e, ⟨⟩⟩)

/-- What is noted of a statement starts with the way that is taken, and this is not noted again. -/
theorem exists_dispatch (h : verifyPacked value auth clientDataHash = ⟨events, outcome⟩)
    {statement : Statement} (hparse : Statement.ofCbor value = .ok statement) :
    ∃ rest, events = statement.dispatch :: rest ∧ ∀ event ∈ rest, event.stage ≠ .dispatch := by
  rw [verifyPacked_of_ok hparse] at h
  cases h
  exact ⟨_, rfl, fun event => Statement.stage_ne_dispatch_of_check⟩

theorem length_retries_events_le (h : verifyPacked value auth clientDataHash = ⟨events, outcome⟩) :
    (Event.retries events).length ≤ 1 := by
  cases hparse : Statement.ofCbor value with
  | error e =>
    rw [verifyPacked_of_error hparse] at h
    cases h
    exact Nat.zero_le 1
  | ok statement =>
    rw [verifyPacked_of_ok hparse] at h
    cases h
    exact Statement.length_retries_le

/-- An algorithm is retried exactly if it is ECDSA with SHA-256, the statement is basic, the checks
before that of the signature pass, the key of the leaf loads, and the algorithm it declares is
known, another one, and fails. -/
theorem retrying_mem_events_iff (h : verifyPacked value auth clientDataHash = ⟨events, outcome⟩)
    {algorithm : SignatureAlgorithm} :
    .retrying algorithm ∈ events ↔
      algorithm = .ecdsaSha256 ∧ ∃ s leaf key declared, Statement.ofCbor value = .ok (.basic s) ∧
        s.ReachesSignature auth.credential.aaguid leaf ∧ leaf.key = some key ∧
        leaf.declaredAlgorithm? = some declared ∧ declared ≠ .ecdsaSha256 ∧
        ¬SignatureAlgorithm.Accepts key s.sig (auth.raw ++ clientDataHash) declared := by
  rw [mem_events_iff h (show (Event.retrying algorithm).stage = .signature from rfl)]
  simp only [Certificate.retrying_mem_verifySignature_iff]
  constructor
  · rintro ⟨s, leaf, hparse, hreach, halgorithm, key, declared, hfails⟩
    exact ⟨halgorithm, s, leaf, key, declared, hparse, hreach, hfails⟩
  · rintro ⟨halgorithm, s, leaf, key, declared, hparse, hreach, hfails⟩
    exact ⟨s, leaf, hparse, hreach, halgorithm, key, declared, hfails⟩

/-- An algorithm is noted as unrecognised exactly if it is the one that the leaf of a basic
statement declares, the check of the signature is reached with a key that loads, and the algorithm
is not known. -/
theorem unrecognised_mem_events_iff
    (h : verifyPacked value auth clientDataHash = ⟨events, outcome⟩) {oid : Oid} :
    .unrecognisedAlgorithm oid ∈ events ↔
      ∃ s leaf key, Statement.ofCbor value = .ok (.basic s) ∧
        s.ReachesSignature auth.credential.aaguid leaf ∧ leaf.key = some key ∧
        leaf.declaredAlgorithm? = none ∧ oid = leaf.signatureAlgorithm.oid := by
  rw [mem_events_iff h (show (Event.unrecognisedAlgorithm oid).stage = .signature from rfl)]
  simp only [Certificate.unrecognised_mem_verifySignature_iff]
  constructor
  · rintro ⟨s, leaf, hparse, hreach, hoid, ⟨key, hkey⟩, hdeclared⟩
    exact ⟨s, leaf, key, hparse, hreach, hkey, hdeclared, hoid⟩
  · rintro ⟨s, leaf, key, hparse, hreach, hkey, hdeclared, hoid⟩
    exact ⟨s, leaf, hparse, hreach, hoid, ⟨key, hkey⟩, hdeclared⟩

/-- The algorithm found is the declared one exactly if nothing is retried and nothing is
unrecognised. -/
theorem declared_iff_of_found (h : verifyPacked value auth clientDataHash = ⟨events, outcome⟩)
    {s : BasicStatement} {leaf : Certificate} {algorithm : SignatureAlgorithm}
    (hparse : Statement.ofCbor value = .ok (.basic s))
    (hreach : s.ReachesSignature auth.credential.aaguid leaf)
    (hfound : (leaf.verifySignature s.sig (auth.raw ++ clientDataHash)).outcome =
      .ok (some algorithm)) :
    leaf.declaredAlgorithm? = some algorithm ↔
      (∀ other, .retrying other ∉ events) ∧ ∀ oid, .unrecognisedAlgorithm oid ∉ events := by
  have hretrying (other : SignatureAlgorithm) := mem_events_iff_of_reaches h hparse hreach
    (show (Event.retrying other).stage = .signature from rfl)
  have hunrecognised (oid : Oid) := mem_events_iff_of_reaches h hparse hreach
    (show (Event.unrecognisedAlgorithm oid).stage = .signature from rfl)
  simp only [hretrying, hunrecognised]
  exact Certificate.declared_eq_found_iff hfound

end Events

end PackedAttestation
