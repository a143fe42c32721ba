/-
  Exactly which envelopes become attestations.
-/
import LocalMoe.Foundation.Table
import LocalMoe.Attestation.Inversion
import LocalMoe.Contracts.Sha256

namespace LocalMoe.Attestation

open Foundation Foundation.Table
open Contracts (isSha256 hexDigit)
open Contracts.Sha256 (isLowerHex_hexDigit)

variable {β κ : Type} {L : Library β κ}

/-! ## Payloads -/

theorem unmixed_verifiers (verifiers : List VerifierRequirement) :
    Document.unmixedItems (verifiers.map VerifierRequirement.payload) = true := by
  induction verifiers with
  | nil => rfl
  | cons r rest ih =>
    simp [Document.unmixedItems, Document.unmixed, Document.unmixedEntries,
      VerifierRequirement.payload, ih]

theorem CandidateBinding.document_unmixed (b : CandidateBinding)
    (content fingerprint policy : String) :
    (b.document content fingerprint policy).unmixed = true := by
  simp [CandidateBinding.document, ArtifactDescriptor.payload, VerificationPolicy.payload,
    Document.unmixed, Document.unmixedEntries, unmixed_verifiers]

variable {b : CandidateBinding} {payload : Document}

theorem CandidateBinding.payload_unmixed (h : b.payload L = .ok payload) :
    payload.unmixed = true := by
  unfold CandidateBinding.payload at h
  simp only [bind_eq_ok, pure_eq_ok_iff] at h
  obtain ⟨content, -, fingerprint, -, policy, -, rfl⟩ := h
  exact b.document_unmixed content fingerprint policy

theorem ArtifactDescriptor.payload_injective {d d' : ArtifactDescriptor}
    (h : d.payload = d'.payload) : d = d' := by
  obtain ⟨mediaType, sha256, sizeBytes, _, _⟩ := d
  obtain ⟨mediaType', sha256', sizeBytes', _, _⟩ := d'
  simp [ArtifactDescriptor.payload] at h
  obtain ⟨rfl, rfl, rfl⟩ := h
  rfl

variable {r : VerifierRequirement}

variable {r' : VerifierRequirement}

theorem VerifierRequirement.payload_injective (h : r.payload = r'.payload) : r = r' := by
  obtain ⟨verifierId, adapterId, keyId, key, spec, _, _, _, _, _⟩ := r
  obtain ⟨verifierId', adapterId', keyId', key', spec', _, _, _, _, _⟩ := r'
  simp [VerifierRequirement.payload] at h
  obtain ⟨rfl, rfl, rfl, rfl, rfl⟩ := h
  rfl

theorem VerificationPolicy.payload_injective {p p' : VerificationPolicy}
    (h : p.payload = p'.payload) : p = p' := by
  obtain ⟨policyId, quorum, verifiers, _, _, _, _, _, _⟩ := p
  obtain ⟨policyId', quorum', verifiers', _, _, _, _, _, _⟩ := p'
  simp [VerificationPolicy.payload] at h
  obtain ⟨rfl, rfl, hverifiers⟩ := h
  obtain rfl := List.map_injective_iff.mpr
    (fun _ _ => VerifierRequirement.payload_injective) hverifiers
  rfl

variable {policy : String}

theorem CandidateBinding.document_injective {b' : CandidateBinding}
    {content fingerprint content' fingerprint' policy' : String}
    (h : b.document content fingerprint policy = b'.document content' fingerprint' policy') :
    b = b' := by
  obtain ⟨workflowId, stage, task, config, source, challenge, manifest, changeset, policy,
    createdAt, expiresAt, _, _, _, _⟩ := b
  obtain ⟨workflowId', stage', task', config', source', challenge', manifest', changeset',
    policy', createdAt', expiresAt', _, _, _, _⟩ := b'
  simp [CandidateBinding.document] at h
  obtain ⟨-, -, rfl, hchangeset, rfl, rfl, rfl, hmanifest, rfl, rfl, rfl, hpolicy, -, rfl⟩ := h
  obtain rfl := ArtifactDescriptor.payload_injective hchangeset
  obtain rfl := ArtifactDescriptor.payload_injective hmanifest
  obtain rfl := VerificationPolicy.payload_injective hpolicy
  rfl

theorem CandidateBinding.payload_injective {b' : CandidateBinding} (h : b.payload L = .ok payload)
    (h' : b'.payload L = .ok payload) : b = b' := by
  unfold CandidateBinding.payload at h h'
  simp only [bind_eq_ok, pure_eq_ok_iff] at h h'
  obtain ⟨content, -, fingerprint, -, policy, -, rfl⟩ := h
  obtain ⟨content', -, fingerprint', -, policy', -, hequal⟩ := h'
  exact (CandidateBinding.document_injective hequal).symm

theorem AttestationCheck.payload_injective {c c' : AttestationCheck}
    (h : c.payload = c'.payload) : c = c' := by
  obtain ⟨checkId, passed, evidence, _, _⟩ := c
  obtain ⟨checkId', passed', evidence', _, _⟩ := c'
  simp [AttestationCheck.payload] at h
  obtain ⟨rfl, rfl, rfl⟩ := h
  rfl

/-! ## Verifiers -/

/-- What a verifier has found when it returns an attestation.  The signed binding may still
differ from the binding's payload, where the two are only `==`. -/
structure Accepts (L : Library β κ) (verifier : TrustedEd25519Verifier L)
    (binding : CandidateBinding) (envelope : β) (now : ℚ) (a : IndependentAttestation β)
    (payloadText sig : String) (signature : β) (statement : List (String × Document))
    (checks : List AttestationCheck) (part payload : Document)
    (fingerprint bindingSha256 policy : String) : Prop where
  loads : L.loads envelope = some (envelopeOf payloadText verifier.requirement.keyId sig)
  envelopeBytes : L.canonical (envelopeOf payloadText verifier.requirement.keyId sig) =
    some a.envelopeBytes
  decoded : L.b64decode payloadText = some a.statementBytes
  statementBytes : L.canonical (.dict statement) = some a.statementBytes
  signatureDecoded : L.b64decode sig = some signature
  signed : L.signed verifier.publicKey (dssePae L dssePayloadType a.statementBytes) signature =
    true
  safe : isSafeId a.attestationId = true
  nonneg : 0 ≤ a.issuedAt
  lasts : Lasts binding a.issuedAt a.expiresAt
  issued : a.issuedAt ≤ now
  live : now ≤ a.expiresAt
  nonempty : checks ≠ []
  ordered : InOrder checks
  passed : ∀ c ∈ checks, c.passed = true
  equal : part.datum = payload.datum
  derives : Derives L binding verifier.requirement a.attestationId a.issuedAt a.expiresAt checks
    part payload statement fingerprint bindingSha256 policy
  record : a.adapterId = verifier.requirement.adapterId ∧
    a.verifierId = verifier.requirement.verifierId ∧ a.keyId = verifier.requirement.keyId ∧
    a.evidenceSha256 = L.sha256 a.envelopeBytes

variable {a : IndependentAttestation β}

variable {requirement : VerifierRequirement}

theorem IndependentAttestation.make_eq_ok (hL : L.Lawful) {attestationId : String}
    {statementBytes envelopeBytes : β} {issuedAt expiresAt : ℚ}
    (hsafe : isSafeId attestationId = true) (hissued : 0 ≤ issuedAt) (hlt : issuedAt < expiresAt) :
    IndependentAttestation.make L requirement attestationId statementBytes envelopeBytes issuedAt
        expiresAt = .ok a ↔
      a = ⟨requirement.adapterId, requirement.verifierId, requirement.keyId, attestationId,
        statementBytes, envelopeBytes, L.sha256 envelopeBytes, issuedAt, expiresAt⟩ := by
  unfold IndependentAttestation.make
  simp only [bind_eq_ok, check_eq_ok, exists_const, requireSafeId_eq_ok, requireSha256_eq_ok,
    pure_eq_ok_iff, Option.some.injEq, Document.text.injEq]
  constructor
  · rintro ⟨_, ⟨rfl, -⟩, _, ⟨rfl, -⟩, _, ⟨rfl, -⟩, _, ⟨rfl, -⟩, _, ⟨rfl, -⟩, -, -, -, rfl⟩
    rfl
  · rintro rfl
    exact ⟨_, ⟨rfl, requirement.safeAdapter⟩, _, ⟨rfl, requirement.safeVerifier⟩, _,
      ⟨rfl, requirement.safeKey⟩, _, ⟨rfl, hsafe⟩, _, ⟨rfl, hL.isSha256_sha256 _⟩, hissued,
      hissued.trans hlt.le, hlt, rfl⟩

variable {verifier : TrustedEd25519Verifier L} {binding : CandidateBinding} {envelope : β}

theorem TrustedEd25519Verifier.verify_eq_ok [DecidableEq β] (hL : L.Lawful) {now : ℚ} :
    verifier.verify L binding envelope now = .ok a ↔
      (0 < L.length envelope ∧ L.length envelope ≤ maxEnvelopeBytes) ∧
      ∃ payloadText sig signature statement checks part payload fingerprint bindingSha256 policy,
        Accepts L verifier binding envelope now a payloadText sig signature statement checks part
          payload fingerprint bindingSha256 policy := by
  unfold TrustedEd25519Verifier.verify
  simp only [bind_eq_ok, check_eq_ok, exists_const, timestamp_eq_ok, Option.some.injEq,
    Document.num.injEq]
  constructor
  · rintro ⟨current, ⟨rfl, -⟩, ⟨canonicalEnvelope, statementBytes, statement⟩, hdecode, signature,
      hsignature, hsigned, ⟨attestationId, issuedAt, expiresAt⟩, hvalid, hmake⟩
    obtain ⟨hsize, payloadText, sig, hloads, hdecoded, -, hstatement, henvelope⟩ :=
      decodeEnvelope_eq_ok.mp hdecode
    obtain ⟨hsafe, hissued, -, hlasts, hfrom, huntil, checks, part, payload, fingerprint,
      bindingSha256, policy, hne, hordered, hpassed, hequal, hderives⟩ :=
      validateStatement_eq_ok.mp hvalid
    obtain rfl := (IndependentAttestation.make_eq_ok hL hsafe hissued hlasts.1).mp hmake
    exact ⟨hsize, payloadText, sig, signature, statement, checks, part, payload, fingerprint,
      bindingSha256, policy, hloads, henvelope, hdecoded, hstatement,
      (envelopeSignature_eq_ok (hL.loads_canonical _ _ henvelope)).mp hsignature, hsigned, hsafe,
      hissued, hlasts, hfrom, huntil, hne, hordered, hpassed, hequal, hderives, rfl, rfl, rfl, rfl⟩
  · rintro ⟨hsize, payloadText, sig, signature, statement, checks, part, payload, fingerprint,
      bindingSha256, policy, h⟩
    refine ⟨now, ⟨rfl, h.nonneg.trans h.issued⟩, (a.envelopeBytes, a.statementBytes, statement),
      decodeEnvelope_eq_ok.mpr ⟨hsize, payloadText, sig, h.loads, h.decoded,
        hL.loads_canonical _ _ h.statementBytes, h.statementBytes, h.envelopeBytes⟩, signature,
      (envelopeSignature_eq_ok (hL.loads_canonical _ _ h.envelopeBytes)).mpr h.signatureDecoded,
      h.signed, (a.attestationId, a.issuedAt, a.expiresAt), validateStatement_eq_ok.mpr
        ⟨h.safe, h.nonneg, h.nonneg.trans h.lasts.1.le, h.lasts, h.issued, h.live, checks, part,
          payload, fingerprint, bindingSha256, policy, h.nonempty, h.ordered, h.passed, h.equal,
          h.derives⟩, ?_⟩
    obtain ⟨hadapter, hverifier, hkey, hevidence⟩ := h.record
    refine (IndependentAttestation.make_eq_ok hL h.safe h.nonneg h.lasts.1).mpr ?_
    obtain ⟨adapterId, verifierId, keyId, attestationId, statementBytes, envelopeBytes, evidence,
      issuedAt, expiresAt⟩ := a
    cases hadapter
    cases hverifier
    cases hkey
    change evidence = L.sha256 envelopeBytes at hevidence
    subst hevidence
    rfl

/-! ## Trust stores -/

variable {payloadText sig : String} {statement : List (String × Document)}
  {checks : List AttestationCheck} {part : Document}

theorem Accepts.peeked (hL : L.Lawful) {signature : β} {now : ℚ}
    {fingerprint bindingSha256 : String}
    (h : Accepts L verifier binding envelope now a payloadText sig signature statement checks part
      payload fingerprint bindingSha256 policy) (hsize : L.length envelope ≤ maxEnvelopeBytes) :
    peekSignedVerifierId L envelope = .ok verifier.requirement.verifierId := by
  have hstatement := hL.loads_canonical _ _ h.statementBytes
  have hparts := h.derives.parts
  unfold peekSignedVerifierId
  simp only [bind_eq_ok, check_eq_ok, exists_const, loadsOr_eq_ok]
  refine ⟨hsize, _, h.loads, ?_⟩
  simp only [envelopeOf, Document.item, Document.field_cons, reduceIte]
  simp only [bind_eq_ok, decodeBase64_eq_ok, loadsOr_eq_ok]
  refine ⟨a.statementBytes, ⟨payloadText, rfl, h.decoded⟩, _, hstatement, ?_⟩
  subst hparts
  simp [statementOf, metadataOf, requireSafeId, requireText, verifier.requirement.safeVerifier,
    mapError_ok]

theorem requirement_eq_ok {p : VerificationPolicy} {verifierId : String} :
    p.requirement verifierId = .ok r ↔ r ∈ p.verifiers ∧ r.verifierId = verifierId := by
  have hunique : UniqueKeys VerifierRequirement.verifierId p.verifiers :=
    p.ordered.imp fun hlt => hlt.ne
  rw [← lookup_eq_some_iff hunique]
  unfold VerificationPolicy.requirement lookup
  split
  · next found hfound =>
    rw [hfound]
    simp
  · next hnone =>
    rw [hnone]
    simp

theorem AttestationTrustStore.verify_eq_ok [DecidableEq β] (hL : L.Lawful)
    {store : AttestationTrustStore L} {binding : CandidateBinding} {envelope : β} {now : ℚ}
    {a : IndependentAttestation β} : store.verify L binding envelope now = .ok a ↔
      (0 < L.length envelope ∧ L.length envelope ≤ maxEnvelopeBytes) ∧
      ∃ verifier ∈ store.verifiers, verifier.requirement ∈ binding.verificationPolicy.verifiers ∧
        ∃ payloadText sig signature statement checks part payload fingerprint bindingSha256
          policy, Accepts L verifier binding envelope now a payloadText sig signature statement
            checks part payload fingerprint bindingSha256 policy := by
  have hunique : UniqueKeys (fun v : TrustedEd25519Verifier L => v.requirement.verifierId)
    store.verifiers := store.apart
  unfold AttestationTrustStore.verify
  simp only [bind_eq_ok]
  constructor
  · rintro ⟨verifierId, -, h⟩
    split at h
    · next requirement verifier hrequirement hverifier =>
      simp only [bind_eq_ok, check_eq_ok, exists_const, TrustedEd25519Verifier.verify_eq_ok hL] at h
      obtain ⟨rfl, hsize, haccepts⟩ := h
      exact ⟨hsize, verifier, (mem_of_lookup hverifier).1, (requirement_eq_ok.mp hrequirement).1,
        haccepts⟩
    · cases h
  · rintro ⟨hsize, verifier, hverifier, hrequirement, payloadText, sig, signature, statement,
      checks, part, payload, fingerprint, bindingSha256, policy, h⟩
    refine ⟨verifier.requirement.verifierId, h.peeked hL hsize.2, ?_⟩
    have hrequired : binding.verificationPolicy.requirement verifier.requirement.verifierId =
        .ok verifier.requirement := requirement_eq_ok.mpr ⟨hrequirement, rfl⟩
    have hfound : store.verifiers.find? (fun v =>
        v.requirement.verifierId = verifier.requirement.verifierId) = some verifier :=
      (lookup_eq_some_iff hunique).mpr ⟨hverifier, rfl⟩
    rw [hrequired, hfound]
    simp only [bind_eq_ok, check_eq_ok, exists_const, TrustedEd25519Verifier.verify_eq_ok hL]
    exact ⟨trivial, hsize, payloadText, sig, signature, statement, checks, part, payload,
      fingerprint, bindingSha256, policy, h⟩

/-! ## Authority -/

/-- The envelope carries one signature, made with the key of the verifier's requirement over the
canonical bytes of the statement that `build_attestation_statement` gives for the binding, the
requirement and passed checks; the record carries exactly these values. -/
structure Certifies (L : Library β κ) (verifier : TrustedEd25519Verifier L)
    (binding : CandidateBinding) (envelope : β) (now : ℚ) (a : IndependentAttestation β)
    (payloadText sig : String) (signature : β) (statement : List (String × Document))
    (checks : List AttestationCheck) : Prop where
  loads : L.loads envelope = some (envelopeOf payloadText verifier.requirement.keyId sig)
  envelopeBytes : L.canonical (envelopeOf payloadText verifier.requirement.keyId sig) =
    some a.envelopeBytes
  decoded : L.b64decode payloadText = some a.statementBytes
  built : buildAttestationStatement L binding verifier.requirement a.attestationId a.issuedAt
    a.expiresAt checks = .ok statement
  statementBytes : L.canonical (.dict statement) = some a.statementBytes
  signatureDecoded : L.b64decode sig = some signature
  signed : L.signed verifier.publicKey (dssePae L dssePayloadType a.statementBytes) signature =
    true
  safe : isSafeId a.attestationId = true
  lasts : Lasts binding a.issuedAt a.expiresAt
  issued : a.issuedAt ≤ now
  live : now ≤ a.expiresAt
  nonempty : checks ≠ []
  ordered : InOrder checks
  passed : ∀ c ∈ checks, c.passed = true
  record : a.adapterId = verifier.requirement.adapterId ∧
    a.verifierId = verifier.requirement.verifierId ∧ a.keyId = verifier.requirement.keyId ∧
    a.evidenceSha256 = L.sha256 a.envelopeBytes

/-- The envelope certifies the record, by a requirement that stands both in the binding's policy
and in the store. -/
def Authorizes (L : Library β κ) (store : AttestationTrustStore L) (binding : CandidateBinding)
    (envelope : β) (now : ℚ) (a : IndependentAttestation β) : Prop :=
  ∃ verifier ∈ store.verifiers, verifier.requirement ∈ binding.verificationPolicy.verifiers ∧
    ∃ payloadText sig signature statement checks,
      Certifies L verifier binding envelope now a payloadText sig signature statement checks

/-- The value under `binding` in the text that an envelope carries, before any check. -/
def signedBinding (L : Library β κ) (envelope : β) : Option Document :=
  match (L.loads envelope).bind (·.item "payload") with
  | some (.text t) =>
    ((L.b64decode t).bind L.loads).bind fun statement =>
      (statement.item "predicate").bind (·.item "binding")
  | _ => none

/-- No truth value stands in the signed binding, where the binding has numbers. -/
def Unmixed (L : Library β κ) (envelope : β) : Prop :=
  ∀ part, signedBinding L envelope = some part → part.unmixed = true

variable {metadata outcome : List (String × Document)}

theorem signedBinding_eq {bytes : β} {keyId : String} {subject : Document}
    {bindingSha256 : String} (hloads : L.loads envelope = some (envelopeOf payloadText keyId sig))
    (hdecoded : L.b64decode payloadText = some bytes) (hstatement : L.loads bytes =
      some (.dict (statementOf subject part bindingSha256 metadata outcome))) :
    signedBinding L envelope = some part := by
  simp [signedBinding, hloads, envelopeOf, Document.item, hdecoded, hstatement, statementOf]

theorem accepts_iff_certifies (hL : L.Lawful) {signature : β} {now : ℚ} :
    ((∃ part payload fingerprint bindingSha256 policy, Accepts L verifier binding envelope now a
        payloadText sig signature statement checks part payload fingerprint bindingSha256 policy) ∧
        Unmixed L envelope) ↔
      Certifies L verifier binding envelope now a payloadText sig signature statement
        checks := by
  constructor
  · rintro ⟨⟨part, payload, fingerprint, bindingSha256, policy, h⟩, hunmixed⟩
    obtain ⟨hfingerprint, hpayload, hsha, hpolicy, rfl⟩ := h.derives
    have hpart : part.unmixed = true :=
      hunmixed part (signedBinding_eq h.loads h.decoded (hL.loads_canonical _ _ h.statementBytes))
    obtain rfl := Document.eq_of_datum hpart (CandidateBinding.payload_unmixed hpayload) h.equal
    refine ⟨h.loads, h.envelopeBytes, h.decoded, ?_, h.statementBytes, h.signatureDecoded,
      h.signed, h.safe, h.lasts, h.issued, h.live, h.nonempty, h.ordered, h.passed, h.record⟩
    exact buildAttestationStatement_eq_ok.mpr ⟨h.safe, h.nonneg, h.nonneg.trans h.lasts.1.le,
      h.lasts, h.ordered.sorted.symm ▸ ⟨h.nonempty, h.ordered.nodup⟩, part, fingerprint,
      bindingSha256, policy, hfingerprint, hpayload, hsha, hpolicy, by rw [h.ordered.sorted]⟩
  · intro h
    obtain ⟨-, hissued, -, -, -, payload, fingerprint, bindingSha256, policy, hderives⟩ :=
      buildAttestationStatement_eq_ok.mp h.built
    rw [h.ordered.sorted] at hderives
    refine ⟨⟨payload, payload, fingerprint, bindingSha256, policy, h.loads, h.envelopeBytes,
      h.decoded, h.statementBytes, h.signatureDecoded, h.signed, h.safe, hissued, h.lasts,
      h.issued, h.live, h.nonempty, h.ordered, h.passed, rfl, hderives, h.record⟩,
      fun part hpart => ?_⟩
    have hstatement := hL.loads_canonical _ _ h.statementBytes
    rw [hderives.parts] at hstatement
    obtain rfl := Option.some.inj (hpart.symm.trans (signedBinding_eq h.loads h.decoded hstatement))
    exact CandidateBinding.payload_unmixed hderives.ofPayload

theorem statementOf_injective {subject subject' part' : Document} {digest digest' : String}
    {metadata' outcome' : List (String × Document)}
    (h : statementOf subject part digest metadata outcome =
      statementOf subject' part' digest' metadata' outcome') :
    part = part' ∧ metadata = metadata' ∧ outcome = outcome' := by
  simp [statementOf] at h
  obtain ⟨⟨hmetadata, hpart, -, houtcome⟩, -⟩ := h
  exact ⟨hpart, hmetadata, houtcome⟩

theorem metadataOf_injective {policy' id id' : String} {issued expires issued' expires' : ℚ}
    (h : metadataOf r policy id issued expires = metadataOf r' policy' id' issued' expires') :
    r = r' ∧ id = id' ∧ issued = issued' ∧ expires = expires' := by
  simp [metadataOf] at h
  obtain ⟨hadapter, hid, hexpires, hissued, hkey, hpublic, hspec, -, hverifier⟩ := h
  exact ⟨VerifierRequirement.payload_injective
    (by simp [VerifierRequirement.payload, hadapter, hkey, hpublic, hspec, hverifier]), hid,
    hissued, hexpires⟩

variable {checks' : List AttestationCheck}

theorem outcomeOf_injective (h : outcomeOf checks = outcomeOf checks') : checks = checks' := by
  simp [outcomeOf] at h
  exact List.map_injective_iff.mpr (fun _ _ => AttestationCheck.payload_injective) h.1

theorem Accepts.made (hL : L.Lawful) {other : CandidateBinding} {signature bytes : β}
    {now issuedAt expiresAt : ℚ} {payloadText' keyId sig' : String}
    {statement' : List (String × Document)} {fingerprint bindingSha256 attestationId : String}
    (h : Accepts L verifier binding envelope now a payloadText sig signature statement checks part
      payload fingerprint bindingSha256 policy)
    (hbuilt : buildAttestationStatement L other requirement attestationId issuedAt expiresAt
      checks' = .ok statement') (hbytes : L.canonical (.dict statement') = some bytes)
    (hloads : L.loads envelope = some (envelopeOf payloadText' keyId sig'))
    (hdecoded : L.b64decode payloadText' = some bytes) :
    other = binding ∧ verifier.requirement = requirement ∧ a.attestationId = attestationId ∧
      a.issuedAt = issuedAt ∧ a.expiresAt = expiresAt ∧ a.statementBytes = bytes ∧
      ∀ c ∈ checks', c.passed = true := by
  have henvelope := h.loads.symm.trans hloads
  simp [envelopeOf] at henvelope
  obtain ⟨rfl, -, -⟩ := henvelope
  obtain rfl := Option.some.inj (h.decoded.symm.trans hdecoded)
  have hstatement := hL.canonical_injective h.statementBytes hbytes
  simp only [Document.dict.injEq] at hstatement
  obtain ⟨-, -, -, -, -, payload', fingerprint', bindingSha256', policy', hderives⟩ :=
    buildAttestationStatement_eq_ok.mp hbuilt
  rw [h.derives.parts, hderives.parts] at hstatement
  obtain ⟨rfl, hmetadata, houtcome⟩ := statementOf_injective hstatement
  obtain ⟨hrequirement, hid, hissued, hexpires⟩ := metadataOf_injective hmetadata
  have hchecks := outcomeOf_injective houtcome
  obtain rfl := Document.eq_of_datum (CandidateBinding.payload_unmixed hderives.ofPayload)
    (CandidateBinding.payload_unmixed h.derives.ofPayload) h.equal
  refine ⟨CandidateBinding.payload_injective hderives.ofPayload h.derives.ofPayload,
    hrequirement, hid, hissued, hexpires, rfl, fun c hc => h.passed c ?_⟩
  rw [hchecks]
  exact List.mem_mergeSort.mpr hc

/-- A store vouches exactly for the certified envelopes within the size limit, as long as no
truth value stands for a number in the signed binding; and what it vouches for was signed for
this binding, a requirement of its policy, and checks that passed. -/
theorem attestation_exact [DecidableEq β] (hL : L.Lawful) (store : AttestationTrustStore L)
    (binding : CandidateBinding) (envelope : β) (now : ℚ) (a : IndependentAttestation β) :
    (store.verify L binding envelope now = .ok a ∧ Unmixed L envelope ↔
      (0 < L.length envelope ∧ L.length envelope ≤ maxEnvelopeBytes) ∧
        Authorizes L store binding envelope now a) ∧
    ∀ other requirement attestationId issuedAt expiresAt checks statement bytes payloadText keyId
      sig, buildAttestationStatement L other requirement attestationId issuedAt expiresAt checks =
        .ok statement → L.canonical (.dict statement) = some bytes →
      L.loads envelope = some (envelopeOf payloadText keyId sig) →
      L.b64decode payloadText = some bytes → store.verify L binding envelope now = .ok a →
      other = binding ∧ requirement ∈ binding.verificationPolicy.verifiers ∧
        (∃ verifier ∈ store.verifiers, verifier.requirement = requirement) ∧
        a.attestationId = attestationId ∧ a.issuedAt = issuedAt ∧ a.expiresAt = expiresAt ∧
        a.statementBytes = bytes ∧ ∀ c ∈ checks, c.passed = true := by
  rw [AttestationTrustStore.verify_eq_ok hL]
  constructor
  · constructor
    · rintro ⟨⟨hsize, verifier, hverifier, hrequirement, payloadText, sig, signature, statement,
        checks, haccepts⟩, hunmixed⟩
      exact ⟨hsize, verifier, hverifier, hrequirement, payloadText, sig, signature, statement,
        checks, (accepts_iff_certifies hL).mp ⟨haccepts, hunmixed⟩⟩
    · rintro ⟨hsize, verifier, hverifier, hrequirement, payloadText, sig, signature, statement,
        checks, hcertifies⟩
      obtain ⟨haccepts, hunmixed⟩ := (accepts_iff_certifies hL).mpr hcertifies
      exact ⟨⟨hsize, verifier, hverifier, hrequirement, payloadText, sig, signature, statement,
        checks, haccepts⟩, hunmixed⟩
  · intro other requirement attestationId issuedAt expiresAt checks statement bytes payloadText
      keyId sig hbuilt hbytes hloads hdecoded hok
    obtain ⟨-, verifier, hverifier, hrequirement, payloadText', sig', signature, statement',
      checks', part, payload, fingerprint, bindingSha256, policy, h⟩ := hok
    obtain ⟨hother, hmade, hid, hissued, hexpires, hstatement, hpassed⟩ :=
      h.made hL hbuilt hbytes hloads hdecoded
    exact ⟨hother, hmade ▸ hrequirement, ⟨verifier, hverifier, hmade⟩, hid, hissued, hexpires,
      hstatement, hpassed⟩

/-! ## A sample -/

/-- Byte strings of the sample: the canonical text of a document is one symbol. -/
abbrev SampleBytes := List (Char ⊕ Document)

def sampleDigest (n : Nat) : String := String.ofList (List.replicate 64 (hexDigit (n % 16)))

variable (n : Nat)

theorem isSha256_sampleDigest : isSha256 (sampleDigest n) = true := by
  simp [isSha256, sampleDigest, isLowerHex_hexDigit (Nat.mod_lt n (by decide : 16 > 0)),
    ← String.length_toList]

def sampleSha256 : SampleBytes → String
  | [.inr (.dict ((key, _) :: rest))] => sampleDigest (key.length + rest.length)
  | _ => sampleDigest 0

def sampleLoads (bytes : SampleBytes) : Option Document :=
  match bytes.dropWhile (· == .inl ' ') with
  | [.inr document] => some document
  | _ => none

theorem sampleLoads_padded (document : Document) :
    sampleLoads (List.replicate n (.inl ' ') ++ [.inr document]) = some document := by
  unfold sampleLoads
  rw [List.dropWhile_append_of_pos fun b hb => by
    rw [List.eq_of_mem_replicate hb]
    rfl]
  rfl

def sampleLibrary (statement : List (String × Document)) : Library SampleBytes Unit where
  length := List.length
  ascii s := s.toList.map .inl
  append := (· ++ ·)
  loads := sampleLoads
  canonical document := some [.inr document]
  b64decode t :=
    if t = "c3RhdGVtZW50" then some [.inr (.dict statement)]
    else if t = "c2ln" then some [.inl 's', .inl 'i', .inl 'g'] else none
  sha256 := sampleSha256
  ed25519PublicKeySha256 _ := sampleDigest 1
  signed _ message signature :=
    message = ("DSSEv1 28 application/vnd.in-toto+json 1 ".toList.map .inl) ++
      [.inr (.dict statement)] && signature = [.inl 's', .inl 'i', .inl 'g']

theorem sampleLibrary_lawful (statement : List (String × Document)) :
    (sampleLibrary statement).Lawful where
  loads_canonical := by
    rintro document _ ⟨⟩
    rfl
  isSha256_sha256 bytes := by
    change isSha256 (sampleSha256 bytes) = true
    unfold sampleSha256
    split <;> exact isSha256_sampleDigest _

def sampleRequirement : VerifierRequirement :=
  ⟨"verifier", "dsse-ed25519-v1", "key-1", sampleDigest 1, sampleDigest 2, by decide, by decide,
    by decide, isSha256_sampleDigest 1, isSha256_sampleDigest 2⟩

def samplePolicy : VerificationPolicy where
  policyId := "policy"
  quorum := 1
  verifiers := [sampleRequirement]
  safe := by decide
  ordered := by simp
  keysApart := by simp
  publicKeysApart := by simp
  positive := Nat.one_pos
  within := by simp

def sampleBinding : CandidateBinding where
  workflowId := "workflow"
  stageIdempotencySha256 := sampleDigest 3
  taskFingerprint := sampleDigest 3
  configSha256 := sampleDigest 3
  sourceFingerprint := sampleDigest 3
  challengeSha256 := sampleDigest 3
  manifest := ⟨"application/json", sampleDigest 3, 2, isSha256_sampleDigest 3, by decide⟩
  changeset := ⟨"application/json", sampleDigest 3, 2, isSha256_sampleDigest 3, by decide⟩
  verificationPolicy := samplePolicy
  createdAt := 0
  expiresAt := 10
  safe := by decide
  digests := by simp [isSha256_sampleDigest]
  nonneg := Rat.le_refl
  lifetime := by norm_num

def sampleCheck : AttestationCheck := ⟨"tests", true, sampleDigest 3, by decide,
  isSha256_sampleDigest 3⟩

def digestOr (x : Except Failure String) : String :=
  match x with
  | .ok digest => digest
  | .error _ => ""

/-- The payload of a policy, where the quorum may be another value. -/
def policyWith (quorum : Document) : Document :=
  .dict [("policyId", .text samplePolicy.policyId), ("quorum", quorum),
    ("verifiers", .list [sampleRequirement.payload])]

/-- The payload of the binding, where the quorum may be another value. -/
def payloadWith (quorum : Document) : Document :=
  let d := sampleDigest 3
  let artifact := sampleBinding.manifest.payload
  .dict [("candidateContentSha256", .text (digestOr
      (sampleBinding.candidateContentSha256 (sampleLibrary [])))),
    ("candidateFingerprint", .text (digestOr
      (sampleBinding.candidateFingerprint (sampleLibrary [])))),
    ("challengeSha256", .text d), ("changeset", artifact), ("configSha256", .text d),
    ("createdAt", .num 0), ("expiresAt", .num 10), ("manifest", artifact),
    ("schemaVersion", .text twoPhaseSchemaVersion), ("sourceFingerprint", .text d),
    ("stageIdempotencySha256", .text d), ("taskFingerprint", .text d),
    ("verificationPolicy", policyWith quorum),
    ("verificationPolicySha256", .text (digestOr (samplePolicy.policySha256 (sampleLibrary [])))),
    ("workflowId", .text "workflow")]

/-- The signed statement, where the quorum may be another value. -/
def statementWith (quorum : Document) : List (String × Document) :=
  statementOf (subjectOf sampleBinding
      (digestOr (sampleBinding.candidateFingerprint (sampleLibrary []))))
    (payloadWith quorum) (digestOr (sampleBinding.bindingSha256 (sampleLibrary [])))
    (metadataOf sampleRequirement (digestOr (samplePolicy.policySha256 (sampleLibrary [])))
      "attestation" 1 9) (outcomeOf [sampleCheck])

def sampleVerifier (statement : List (String × Document)) :
    TrustedEd25519Verifier (sampleLibrary statement) := ⟨sampleRequirement, (), rfl, rfl⟩

def sampleStore (statement : List (String × Document)) :
    AttestationTrustStore (sampleLibrary statement) :=
  ⟨[sampleVerifier statement], by simp, by simp⟩

def sampleEnvelope : Document := envelopeOf "c3RhdGVtZW50" "key-1" "c2ln"

def sampleAttestation (statement : List (String × Document)) :
    IndependentAttestation SampleBytes :=
  ⟨"dsse-ed25519-v1", "verifier", "key-1", "attestation", [.inr (.dict statement)],
    [.inr sampleEnvelope], sampleSha256 [.inr sampleEnvelope], 1, 9⟩

theorem sample_accepts {quorum : Document} (hquorum : quorum.datum = .num 1)
    {envelope : SampleBytes} (hloads : (sampleLibrary (statementWith quorum)).loads envelope =
      some sampleEnvelope) :
    Accepts (sampleLibrary (statementWith quorum)) (sampleVerifier (statementWith quorum))
      sampleBinding envelope 5 (sampleAttestation (statementWith quorum)) "c3RhdGVtZW50" "c2ln"
      [.inl 's', .inl 'i', .inl 'g'] (statementWith quorum) [sampleCheck] (payloadWith quorum)
      (payloadWith (.num 1)) (digestOr (sampleBinding.candidateFingerprint (sampleLibrary [])))
      (digestOr (sampleBinding.bindingSha256 (sampleLibrary [])))
      (digestOr (samplePolicy.policySha256 (sampleLibrary []))) where
  loads := hloads
  envelopeBytes := rfl
  decoded := rfl
  statementBytes := rfl
  signatureDecoded := rfl
  signed := by
    have hheader : "DSSEv1 " ++ toString dssePayloadType.length ++ " " ++ dssePayloadType ++ " " ++
        toString 1 ++ " " = "DSSEv1 28 application/vnd.in-toto+json 1 " := by decide
    have hpae : dssePae (sampleLibrary (statementWith quorum)) dssePayloadType
        [.inr (.dict (statementWith quorum))] =
          "DSSEv1 28 application/vnd.in-toto+json 1 ".toList.map .inl ++
            [.inr (.dict (statementWith quorum))] := by
      simp only [dssePae, sampleLibrary, List.length_cons, List.length_nil, Nat.zero_add]
      rw [hheader]
    change (decide (dssePae _ _ _ = _) && decide (_ = _)) = true
    rw [sampleAttestation, hpae]
    exact Bool.and_eq_true_iff.mpr ⟨decide_eq_true rfl, decide_eq_true rfl⟩
  safe := show isSafeId "attestation" = true by decide
  nonneg := by norm_num [sampleAttestation]
  lasts := by norm_num [Lasts, sampleAttestation, sampleBinding]
  issued := by norm_num [sampleAttestation]
  live := by norm_num [sampleAttestation]
  nonempty := by simp
  ordered := by simp [InOrder]
  passed := by simp [sampleCheck]
  equal := by simp [payloadWith, policyWith, Document.datum, Document.datumEntries, hquorum]
  derives := by
    refine ⟨rfl, ?_, rfl, rfl, rfl⟩
    change Except.ok (sampleBinding.document _ _ _) = Except.ok _
    have hquorum : ((samplePolicy.quorum : ℕ) : ℚ) = 1 := Nat.cast_one
    unfold payloadWith CandidateBinding.document policyWith
    rw [← hquorum]
    rfl
  record := ⟨rfl, rfl, rfl, rfl⟩

theorem sample_unmixed {envelope : SampleBytes}
    (hloads : (sampleLibrary (statementWith (.num 1))).loads envelope = some sampleEnvelope) :
    Unmixed (sampleLibrary (statementWith (.num 1))) envelope := by
  intro part hpart
  have hsigned : signedBinding (sampleLibrary (statementWith (.num 1))) envelope =
      some (payloadWith (.num 1)) := signedBinding_eq hloads rfl rfl
  obtain rfl := Option.some.inj (hpart.symm.trans hsigned)
  rfl

theorem sample_authorizes {envelope : SampleBytes}
    (hloads : (sampleLibrary (statementWith (.num 1))).loads envelope = some sampleEnvelope) :
    Authorizes (sampleLibrary (statementWith (.num 1))) (sampleStore (statementWith (.num 1)))
      sampleBinding envelope 5 (sampleAttestation (statementWith (.num 1))) :=
  ⟨_, List.mem_singleton.mpr rfl, List.mem_singleton.mpr rfl, _, _, _, _, _,
    (accepts_iff_certifies (sampleLibrary_lawful _)).mp
      ⟨⟨_, _, _, _, _, sample_accepts rfl hloads⟩, sample_unmixed hloads⟩⟩

theorem padded_authorizes :
    Authorizes (sampleLibrary (statementWith (.num 1))) (sampleStore (statementWith (.num 1)))
      sampleBinding (List.replicate n (.inl ' ') ++ [.inr sampleEnvelope]) 5
      (sampleAttestation (statementWith (.num 1))) :=
  sample_authorizes (sampleLoads_padded n sampleEnvelope)

theorem padded_refused (hn : maxEnvelopeBytes ≤ n) {a : IndependentAttestation SampleBytes} :
    (sampleStore (statementWith (.num 1))).verify _ sampleBinding
      (List.replicate n (.inl ' ') ++ [.inr sampleEnvelope]) 5 ≠ .ok a := by
  intro hok
  have hsize : (List.replicate n (Sum.inl ' ') ++ [Sum.inr sampleEnvelope] : SampleBytes).length ≤
      maxEnvelopeBytes :=
    ((AttestationTrustStore.verify_eq_ok (sampleLibrary_lawful _)).mp hok).1.2
  rw [List.length_append, List.length_replicate, List.length_singleton] at hsize
  omega

theorem attestation_exact_sample :
    (sampleStore (statementWith (.num 1))).verify _ sampleBinding [.inr sampleEnvelope] 5 =
        .ok (sampleAttestation (statementWith (.num 1))) ∧
      Unmixed (sampleLibrary (statementWith (.num 1))) [.inr sampleEnvelope] :=
  (attestation_exact (sampleLibrary_lawful _) (sampleStore (statementWith (.num 1)))
    sampleBinding [.inr sampleEnvelope] 5 (sampleAttestation (statementWith (.num 1)))).1.mpr
      ⟨by decide, sample_authorizes rfl⟩

/-- A statement whose quorum is signed as `true` is verified though it is not the canonical one;
and an envelope with more blanks than the size limit is refused though its statement is. -/
theorem mixed_verified_padded_refused :
    (∃ a, (sampleStore (statementWith (.bool true))).verify _ sampleBinding
        [.inr sampleEnvelope] 5 = .ok a ∧
      ¬ Authorizes (sampleLibrary (statementWith (.bool true)))
        (sampleStore (statementWith (.bool true))) sampleBinding [.inr sampleEnvelope] 5 a) ∧
    ∃ envelope a, Authorizes (sampleLibrary (statementWith (.num 1)))
        (sampleStore (statementWith (.num 1))) sampleBinding envelope 5 a ∧
      (sampleStore (statementWith (.num 1))).verify _ sampleBinding envelope 5 ≠ .ok a := by
  constructor
  · refine ⟨sampleAttestation (statementWith (.bool true)), ?_, ?_⟩
    · exact (AttestationTrustStore.verify_eq_ok (sampleLibrary_lawful _)).mpr ⟨by decide, _,
        List.mem_singleton.mpr rfl, List.mem_singleton.mpr rfl, _, _, _, _, _, _, _, _, _, _,
        sample_accepts rfl rfl⟩
    · rintro ⟨verifier, -, -, payloadText, sig, signature, statement, checks, hcertifies⟩
      have hunmixed := ((accepts_iff_certifies (sampleLibrary_lawful _)).mpr hcertifies).2
      have hsigned : signedBinding (sampleLibrary (statementWith (.bool true)))
          [.inr sampleEnvelope] = some (payloadWith (.bool true)) :=
        signedBinding_eq (show _ = some sampleEnvelope from rfl) rfl rfl
      exact absurd (hunmixed _ hsigned) (by decide)
  · exact ⟨_, _, padded_authorizes maxEnvelopeBytes, padded_refused maxEnvelopeBytes le_rfl⟩

end LocalMoe.Attestation
