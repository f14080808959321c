import PackedAttestation.Proofs.FirstAccepted
import PackedAttestation.Proofs.TrialEvents

/-! # What a signature check notes

The check of a signature by the key of a certificate tries algorithms one after the other.
Each attempt that fails is noted, whether it does not hold or ends in an error
(`SignatureAlgorithm.events_firstValid_cons`), and each but the first is noted as a retry
(`SignatureAlgorithm.retries_firstValid`).  So the fallback is noted exactly where it is tried
after another algorithm, and the log tells whether the algorithm found is the declared one
(`Certificate.declared_eq_found_iff`).
-/
namespace PackedAttestation

open Certificate (PublicKey)

namespace SignatureAlgorithm

variable {key : PublicKey} {signature message : Bytes} {algorithm : SignatureAlgorithm}

/-! ### One attempt after the other -/

/-- The algorithms that are tried: those up to the first one that is accepted. -/
def tried (key : PublicKey) (signature message : Bytes) :
    List SignatureAlgorithm → List SignatureAlgorithm
  | [] => []
  | algorithm :: rest =>
    algorithm ::
      if Accepts key signature message algorithm then [] else tried key signature message rest

theorem length_tried_le (algorithms : List SignatureAlgorithm) :
    (tried key signature message algorithms).length ≤ algorithms.length := by
  induction algorithms with
  | nil => exact Nat.le_refl 0
  | cons algorithm rest ih =>
    unfold tried
    split
    · simp
    · exact Nat.succ_le_succ ih

theorem events_attempt :
    (algorithm.attempt key signature message).events =
      if key.kind = algorithm.keyKind then [] else [.keyMismatch algorithm key.kind] := by
  rw [attempt, ite_not]
  split <;> rfl

/-- What is noted of the result of an attempt. -/
def resultEvents (algorithm : SignatureAlgorithm) : Except ProviderFault Bool → List Event
  | .ok true => []
  | .ok false => [.notVerified algorithm]
  | .error fault => [.attemptFailed algorithm fault]

/-- One step: a retry is noted if it is one, then what the attempt notes and how it fails, and
after an attempt that fails what the rest notes. -/
theorem events_firstValid_cons (key : PublicKey) (signature message : Bytes) (again : Bool)
    (algorithm : SignatureAlgorithm) (rest : List SignatureAlgorithm) :
    ∃ result, (algorithm.attempt key signature message).outcome = .ok result ∧
      (firstValid key signature message again (algorithm :: rest)).events =
        (if again then [.retrying algorithm] else []) ++
          ((algorithm.attempt key signature message).events ++ (resultEvents algorithm result ++
            if Accepts key signature message algorithm then []
            else (firstValid key signature message true rest).events)) := by
  obtain ⟨result, hresult⟩ := exists_outcome_attempt algorithm key signature message
  refine ⟨result, hresult, ?_⟩
  have haccepts : Accepts key signature message algorithm ↔ result = .ok true := by
    rw [← outcome_attempt_eq_ok_true_iff, hresult, Except.ok.injEq]
  have hnoted :
      (firstValid key signature message again (algorithm :: rest)).events =
        (if again then [.retrying algorithm] else []) ++
          (algorithm.attempt key signature message >>= fun result =>
            match result with
            | .ok true => pure (some algorithm)
            | .ok false => do
              Trial.note (.notVerified algorithm)
              firstValid key signature message true rest
            | .error fault => do
              Trial.note (.attemptFailed algorithm fault)
              firstValid key signature message true rest).events := by
    cases again <;> rfl
  -- What follows the attempt is told by its result alone.
  rw [hnoted, Trial.bind_of_ok hresult]
  simp only [haccepts]
  rcases result with fault | _ | _ <;> rfl

/-- What is noted are retries, keys of the wrong kind and attempts that fail. -/
theorem event_of_firstValid {again : Bool} {algorithms : List SignatureAlgorithm} {event : Event}
    (h : event ∈ (firstValid key signature message again algorithms).events) :
    ∃ algorithm, event = .retrying algorithm ∨ event = .keyMismatch algorithm key.kind ∨
      event = .notVerified algorithm ∨ ∃ fault, event = .attemptFailed algorithm fault := by
  induction algorithms generalizing again with
  | nil => cases h
  | cons algorithm rest ih =>
    obtain ⟨result, -, hevents⟩ :=
      events_firstValid_cons key signature message again algorithm rest
    rw [hevents, events_attempt, List.mem_append, List.mem_append, List.mem_append] at h
    rcases h with hretry | hmismatch | hresult | hrest
    · refine ⟨algorithm, .inl ?_⟩
      cases again with
      | true => exact List.mem_singleton.mp hretry
      | false => cases hretry
    · refine ⟨algorithm, .inr (.inl ?_)⟩
      split at hmismatch
      · cases hmismatch
      · exact List.mem_singleton.mp hmismatch
    · refine ⟨algorithm, .inr (.inr ?_)⟩
      rcases result with fault | _ | _
      · exact .inr ⟨fault, List.mem_singleton.mp hresult⟩
      · exact .inl (List.mem_singleton.mp hresult)
      · cases hresult
    · split at hrest
      · cases hrest
      · exact ih hrest

/-- The algorithms retried are those tried, less the first one where none has been tried
before. -/
theorem retries_firstValid (again : Bool) (algorithms : List SignatureAlgorithm) :
    Event.retries (firstValid key signature message again algorithms).events =
      if again then tried key signature message algorithms
      else (tried key signature message algorithms).tail := by
  induction algorithms generalizing again with
  | nil => cases again <;> rfl
  | cons algorithm rest ih =>
    obtain ⟨result, -, hevents⟩ :=
      events_firstValid_cons key signature message again algorithm rest
    have hattempt : Event.retries (algorithm.attempt key signature message).events = [] := by
      rw [events_attempt]
      split <;> rfl
    have hresult : Event.retries (resultEvents algorithm result) = [] := by
      rcases result with fault | _ | _ <;> rfl
    have hrest :
        Event.retries (if Accepts key signature message algorithm then []
          else (firstValid key signature message true rest).events) =
        if Accepts key signature message algorithm then []
        else tried key signature message rest := by
      split
      · rfl
      · exact ih true
    rw [hevents, Event.retries_append, Event.retries_append, Event.retries_append, hattempt,
      hresult, hrest]
    cases again <;> rfl

/-! ### The candidates -/

theorem length_candidates_le (declared : Option SignatureAlgorithm) :
    (candidates declared).length ≤ 2 := by
  have hdeclared : declared.toList.length ≤ 1 := by cases declared <;> simp
  have hfallback : (if declared = some ecdsaSha256 then [] else [ecdsaSha256]).length ≤ 1 := by
    split <;> simp
  rw [candidates_eq, List.length_append]
  omega

theorem tried_singleton : tried key signature message [algorithm] = [algorithm] := by
  simp [tried]

/-- The fallback is tried after the declared algorithm exactly if that is another one and
fails. -/
theorem mem_tail_tried_candidates_iff {declared : Option SignatureAlgorithm} :
    algorithm ∈ (tried key signature message (candidates declared)).tail ↔
      algorithm = ecdsaSha256 ∧ ∃ first, declared = some first ∧ first ≠ ecdsaSha256 ∧
        ¬Accepts key signature message first := by
  rw [candidates_eq]
  cases declared with
  | none => simp [tried_singleton]
  | some first =>
    simp only [Option.some.injEq, exists_eq_left', Option.toList_some, List.singleton_append,
      tried, List.tail_cons]
    by_cases hfirst : first = ecdsaSha256
    · simp [hfirst, tried]
    · rw [if_neg hfirst, tried_singleton]
      by_cases haccepts : Accepts key signature message first <;> simp [hfirst, haccepts]

end SignatureAlgorithm

namespace Certificate

open SignatureAlgorithm

variable {certificate : Certificate} {key : PublicKey} {signature message : Bytes}

theorem events_verifySignature_of_none (h : certificate.key = none) :
    (certificate.verifySignature signature message).events = [.keyNotLoaded] := by
  rw [verifySignature, h]
  rfl

theorem events_verifySignature_of_key (h : certificate.key = some key) :
    (certificate.verifySignature signature message).events =
      (if certificate.declaredAlgorithm? = none then
          [.unrecognisedAlgorithm certificate.signatureAlgorithm.oid] else []) ++
        (firstValid key signature message false
          (candidates certificate.declaredAlgorithm?)).events := by
  rw [verifySignature, h]
  cases certificate.declaredAlgorithm? <;> rfl

/-- Whatever comes of it, a signature check notes events of its own stage only. -/
theorem stage_of_verifySignature {event : Event}
    (h : event ∈ (certificate.verifySignature signature message).events) :
    event.stage = .signature := by
  cases hkey : certificate.key with
  | none =>
    rw [events_verifySignature_of_none hkey, List.mem_singleton] at h
    rw [h]
    rfl
  | some key =>
    rw [events_verifySignature_of_key hkey, List.mem_append] at h
    rcases h with hunrecognised | hattempts
    · split at hunrecognised
      · rw [List.mem_singleton.mp hunrecognised]
        rfl
      · cases hunrecognised
    · obtain ⟨algorithm, rfl | rfl | rfl | ⟨fault, rfl⟩⟩ := event_of_firstValid hattempts <;> rfl

theorem retries_verifySignature_of_key (h : certificate.key = some key) :
    Event.retries (certificate.verifySignature signature message).events =
      (tried key signature message (candidates certificate.declaredAlgorithm?)).tail := by
  have hdeclared :
      Event.retries (if certificate.declaredAlgorithm? = none then
        [.unrecognisedAlgorithm certificate.signatureAlgorithm.oid] else []) = [] := by
    split <;> rfl
  rw [events_verifySignature_of_key h, Event.retries_append, hdeclared, retries_firstValid]
  rfl

/-- At most one algorithm is retried. -/
theorem length_retries_verifySignature_le :
    (Event.retries (certificate.verifySignature signature message).events).length ≤ 1 := by
  cases hkey : certificate.key with
  | none =>
    rw [events_verifySignature_of_none hkey]
    exact Nat.zero_le 1
  | some key =>
    have htried : (tried key signature message (candidates certificate.declaredAlgorithm?)).length ≤
        (candidates certificate.declaredAlgorithm?).length := length_tried_le _
    have hcandidates := length_candidates_le certificate.declaredAlgorithm?
    rw [retries_verifySignature_of_key hkey, List.length_tail]
    omega

/-- The fallback is retried exactly if the key loads, and the declared algorithm is known,
another one, and fails. -/
theorem retrying_mem_verifySignature_iff {algorithm : SignatureAlgorithm} :
    .retrying algorithm ∈ (certificate.verifySignature signature message).events ↔
      algorithm = .ecdsaSha256 ∧ ∃ key declared, certificate.key = some key ∧
        certificate.declaredAlgorithm? = some declared ∧ declared ≠ .ecdsaSha256 ∧
        ¬Accepts key signature message declared := by
  cases hkey : certificate.key with
  | none => simp [events_verifySignature_of_none hkey]
  | some key =>
    rw [← Event.mem_retries_iff, retries_verifySignature_of_key hkey,
      mem_tail_tried_candidates_iff]
    simp

/-- The declared algorithm is noted as unrecognised exactly if the key loads and it is not
known. -/
theorem unrecognised_mem_verifySignature_iff {oid : Oid} :
    .unrecognisedAlgorithm oid ∈ (certificate.verifySignature signature message).events ↔
      oid = certificate.signatureAlgorithm.oid ∧ (∃ key, certificate.key = some key) ∧
        certificate.declaredAlgorithm? = none := by
  cases hkey : certificate.key with
  | none => simp [events_verifySignature_of_none hkey]
  | some key =>
    have hattempts : .unrecognisedAlgorithm oid ∉ (firstValid key signature message false
        (candidates certificate.declaredAlgorithm?)).events := by
      intro hmem
      obtain ⟨algorithm, h | h | h | ⟨fault, h⟩⟩ := event_of_firstValid hmem <;> cases h
    rw [events_verifySignature_of_key hkey, List.mem_append, or_iff_left hattempts]
    split <;> simp [*]

/-- **The log tells the declared algorithm from the fallback.** The algorithm found is the
declared one exactly if nothing is retried and nothing is unrecognised. -/
theorem declared_eq_found_iff {algorithm : SignatureAlgorithm}
    (h : (certificate.verifySignature signature message).outcome = .ok (some algorithm)) :
    certificate.declaredAlgorithm? = some algorithm ↔
      (∀ other, .retrying other ∉ (certificate.verifySignature signature message).events) ∧
        ∀ oid, .unrecognisedAlgorithm oid ∉
          (certificate.verifySignature signature message).events := by
  cases hkey : certificate.key with
  | none =>
    rw [outcome_verifySignature_of_none hkey] at h
    cases h
  | some key =>
    rw [outcome_verifySignature_of_key hkey, Except.ok.injEq] at h
    obtain ⟨hcandidate, haccepts⟩ := of_firstAccepted? h
    simp only [retrying_mem_verifySignature_iff, unrecognised_mem_verifySignature_iff, hkey]
    constructor
    · intro hdeclared
      refine ⟨?_, by simp [hdeclared]⟩
      rintro other ⟨-, _, first, ⟨⟩, hfirst, -, hfails⟩
      cases hdeclared.symm.trans hfirst
      exact hfails haccepts
    · rintro ⟨hretried, hrecognised⟩
      cases hdeclared : certificate.declaredAlgorithm? with
      | none => exact absurd ⟨rfl, ⟨key, rfl⟩, hdeclared⟩ (hrecognised _)
      | some first =>
        rw [hdeclared] at h hcandidate
        rcases hcandidate with hsame | rfl
        · exact hsame
        by_cases hfirst : first = ecdsaSha256
        · rw [hfirst]
        -- Had the declared algorithm failed, the fallback would have been retried.
        have hfails : ¬Accepts key signature message first := by
          intro hfirstAccepts
          rw [candidates_eq, Option.toList_some, List.singleton_append,
            firstAccepted?_cons_of_accepts hfirstAccepts] at h
          exact hfirst (Option.some.inj h)
        exact absurd ⟨rfl, key, first, rfl, hdeclared, hfirst, hfails⟩ (hretried ecdsaSha256)

end Certificate
end PackedAttestation
