/-
  What each part of the verification has read when it returns.
-/
import LocalMoe.Attestation.Verify

namespace LocalMoe.Attestation

open Foundation

variable {β κ : Type} {L : Library β κ}

/-! ## Envelopes -/

def envelopeOf (payload keyId sig : String) : Document :=
  .dict [("payload", .text payload), ("payloadType", .text dssePayloadType),
    ("signatures", .list [.dict [("keyid", .text keyId), ("sig", .text sig)]])]

theorem loadsOr_eq_ok {bytes : β} {message : String} {document : Document} :
    loadsOr L bytes message = .ok document ↔ L.loads bytes = some document := by
  unfold loadsOr
  split <;> simp_all

theorem canonicalJsonBytes_eq_ok {bytes : β} {document : Document} :
    canonicalJsonBytes L document = .ok bytes ↔ L.canonical document = some bytes := by
  unfold canonicalJsonBytes
  split <;> simp_all

variable {value : Option Document}

theorem entriesOf_eq_ok {message : String} {entries : List (String × Document)} :
    entriesOf value message = .ok entries ↔ value = some (.dict entries) := by
  unfold entriesOf
  split <;> simp_all

theorem decodeBase64_eq_ok {value : Document} {label : String} {bytes : β} :
    decodeBase64 L value label = .ok bytes ↔ ∃ t, value = .text t ∧ L.b64decode t = some bytes := by
  unfold decodeBase64
  split
  · split <;> simp_all
  · simp_all

theorem signatureOf_eq_ok {signature : Document} :
    signatureOf value = .ok signature ↔ value = some (.list [signature]) := by
  unfold signatureOf
  split <;> simp_all

theorem descriptorOf_eq_ok {signature : Document} {keyId sig : String} :
    descriptorOf signature keyId = .ok sig ↔
      signature = .dict [("keyid", .text keyId), ("sig", .text sig)] := by
  unfold descriptorOf
  split
  · split <;> simp_all
  · simp_all

variable {statement : List (String × Document)}

theorem decodeEnvelope_eq_ok [DecidableEq β] {envelope canonicalEnvelope payload : β}
    {keyId : String} :
    decodeEnvelope L envelope keyId = .ok (canonicalEnvelope, payload, statement) ↔
      (0 < L.length envelope ∧ L.length envelope ≤ maxEnvelopeBytes) ∧
      ∃ payloadText sig, L.loads envelope = some (envelopeOf payloadText keyId sig) ∧
        L.b64decode payloadText = some payload ∧
        L.loads payload = some (.dict statement) ∧
        L.canonical (.dict statement) = some payload ∧
        L.canonical (envelopeOf payloadText keyId sig) = some canonicalEnvelope := by
  unfold decodeEnvelope
  simp only [bind_eq_ok, check_eq_ok, exists_const, loadsOr_eq_ok, canonicalJsonBytes_eq_ok,
    entriesOf_eq_ok, decodeBase64_eq_ok, signatureOf_eq_ok, descriptorOf_eq_ok, pure_eq_ok_iff,
    Option.some.injEq]
  constructor
  · rintro ⟨hsize, decoded, hloads, entries, rfl, hkeys, htype, signature, hsignature, sig, rfl,
      payload', ⟨payloadText, htext, hpayload⟩, statement', hstatement, fields, rfl,
      canonical, hcanonical, rfl, canonicalEnvelope', henvelope, hresult⟩
    simp only [Document.keys_eq_cons, List.map_eq_nil_iff] at hkeys
    obtain ⟨a, _, rfl, b, _, rfl, c, _, rfl, rfl⟩ := hkeys
    simp only [Prod.mk.injEq] at hresult
    obtain ⟨rfl, rfl, rfl⟩ := hresult
    simp at htype hsignature htext
    subst htype hsignature htext
    exact ⟨hsize, payloadText, sig, hloads, hpayload, hstatement, hcanonical, henvelope⟩
  · rintro ⟨hsize, payloadText, sig, hloads, hpayload, hstatement, hcanonical, henvelope⟩
    refine ⟨hsize, _, hloads, _, rfl, rfl, by simp, _, by simp, sig, rfl, payload,
      ⟨payloadText, by simp, hpayload⟩, _, hstatement, statement, rfl, payload, hcanonical, rfl,
      canonicalEnvelope, henvelope, rfl⟩

theorem envelopeSignature_eq_ok {canonicalEnvelope signature : β} {payloadText keyId sig : String}
    (h : L.loads canonicalEnvelope = some (envelopeOf payloadText keyId sig)) :
    envelopeSignature L canonicalEnvelope = .ok signature ↔ L.b64decode sig = some signature := by
  unfold envelopeSignature
  simp only [bind_eq_ok, loadsOr_eq_ok, signatureOf_eq_ok, decodeBase64_eq_ok, h, Option.some.injEq]
  constructor
  · rintro ⟨_, rfl, descriptor, hdescriptor, t, ht, hsig⟩
    simp [envelopeOf, Document.item] at hdescriptor
    subst hdescriptor
    simp [Document.item] at ht
    exact ht ▸ hsig
  · intro hsig
    exact ⟨_, rfl, _, by simp [envelopeOf, Document.item]; rfl, sig, by simp [Document.item], hsig⟩

/-! ## Checks -/

theorem readCheck_eq_ok {raw : Document} {c : AttestationCheck} :
    readCheck raw = .ok c ↔ raw = c.payload ∧ c.passed = true := by
  unfold readCheck
  simp only [bind_eq_ok, check_eq_ok, exists_const, entriesOf_eq_ok, Option.some.injEq]
  constructor
  · rintro ⟨fields, rfl, hkeys, hread⟩
    simp only [Document.keys_eq_cons, List.map_eq_nil_iff] at hkeys
    obtain ⟨a, _, rfl, b, _, rfl, p, _, rfl, rfl⟩ := hkeys
    split at hread
    · cases hread
    · next checkId hid =>
      split at hread
      · cases hread
      · next evidence hdigest =>
        split at hread
        · next hpassed =>
          cases hread
          have hid' := (requireSafeId_eq_ok.mp hid).1
          have hdigest' := (requireSha256_eq_ok.mp hdigest).1
          simp at hid' hdigest' hpassed
          subst hid' hdigest' hpassed
          exact ⟨rfl, rfl⟩
        · cases hread
  · rintro ⟨rfl, hpassed⟩
    refine ⟨_, rfl, rfl, ?_⟩
    have hid : requireSafeId (Document.field "id" [("evidenceSha256", .text c.evidenceSha256),
        ("id", .text c.checkId), ("passed", .bool c.passed)]) "attestation check_id" =
        .ok c.checkId := requireSafeId_eq_ok.mpr ⟨by simp, c.safe⟩
    have hdigest : requireSha256 (Document.field "evidenceSha256"
        [("evidenceSha256", .text c.evidenceSha256), ("id", .text c.checkId),
          ("passed", .bool c.passed)]) "attestation check evidence_sha256" =
        .ok c.evidenceSha256 := requireSha256_eq_ok.mpr ⟨by simp, c.digest⟩
    split
    · next e he => exact absurd (he.symm.trans hid) (by simp)
    · next checkId hid' =>
      obtain rfl := Except.ok.inj (hid'.symm.trans hid)
      split
      · next e he => exact absurd (he.symm.trans hdigest) (by simp)
      · next evidence hdigest' =>
        obtain rfl := Except.ok.inj (hdigest'.symm.trans hdigest)
        obtain ⟨checkId, passed, evidence, safe, digest⟩ := c
        cases hpassed
        simp

variable {checks : List AttestationCheck}

theorem readChecks_eq_ok {raw : List Document} : raw.mapM readCheck = .ok checks ↔
      raw = checks.map AttestationCheck.payload ∧ ∀ c ∈ checks, c.passed = true := by
  induction raw generalizing checks with
  | nil =>
    rw [List.mapM_nil, pure_eq_ok_iff]
    cases checks <;> simp
  | cons first rest ih =>
    rw [List.mapM_cons]
    simp only [bind_eq_ok, pure_eq_ok_iff, readCheck_eq_ok, ih]
    constructor
    · rintro ⟨c, ⟨rfl, hc⟩, cs, ⟨rfl, hcs⟩, rfl⟩
      exact ⟨rfl, by simpa using ⟨hc, hcs⟩⟩
    · rintro ⟨hraw, hpassed⟩
      cases checks with
      | nil => simp at hraw
      | cons c cs =>
        simp only [List.map_cons, List.cons.injEq] at hraw
        simp only [List.mem_cons, forall_eq_or_imp] at hpassed
        exact ⟨c, ⟨hraw.1, hpassed.1⟩, cs, ⟨hraw.2, hpassed.2⟩, rfl⟩

theorem checksOf_eq_ok {outcome : List (String × Document)} {raw : List Document} :
    checksOf outcome = .ok raw ↔ Document.field "passed" outcome = some (.bool true) ∧
      Document.field "checks" outcome = some (.list raw) ∧ raw ≠ [] := by
  unfold checksOf
  split
  · next first rest hpassed hchecks =>
    constructor
    · rintro ⟨⟩
      exact ⟨hpassed, hchecks, List.cons_ne_nil _ _⟩
    · rintro ⟨-, hraw, -⟩
      cases hchecks.symm.trans hraw
      rfl
  · next hneither =>
    constructor
    · rintro ⟨⟩
    · rintro ⟨hpassed, hchecks, hraw⟩
      cases raw with
      | nil => exact absurd rfl hraw
      | cons first rest => exact absurd hchecks (hneither _ _ hpassed)

theorem timestamp_eq_ok {q : ℚ} : timestamp value = .ok q ↔ value = some (.num q) ∧ 0 ≤ q := by
  unfold timestamp
  split
  · next q' =>
    by_cases hq : q' < 0
    · rw [if_pos hq]
      constructor
      · rintro ⟨⟩
      · rintro ⟨⟨⟩, hq'⟩
        exact absurd hq (not_lt.mpr hq')
    · rw [if_neg hq]
      constructor
      · rintro ⟨⟩
        exact ⟨rfl, not_lt.mp hq⟩
      · rintro ⟨⟨⟩, -⟩
        rfl
  · next hvalue =>
    constructor
    · rintro ⟨⟩
    · rintro ⟨rfl, -⟩
      exact absurd rfl (hvalue q)

theorem ordered_iff {ids : List String} :
    (ids = ids.mergeSort (fun a b => a ≤ b) ∧ ids.Nodup) ↔ ids.Pairwise (· < ·) := by
  constructor
  · rintro ⟨hsorted, hnodup⟩
    have hle : ids.Pairwise (· ≤ ·) := by
      rw [hsorted]
      have hpairwise : (ids.mergeSort fun a b => decide (a ≤ b)).Pairwise
          fun a b => decide (a ≤ b) = true :=
        List.pairwise_mergeSort
          (fun a b c hab hbc => by simpa using le_trans (by simpa using hab) (by simpa using hbc))
          (fun a b => by simpa using le_total a b) ids
      exact hpairwise.imp fun h => by simpa using h
    exact (hle.and hnodup).imp fun h => lt_of_le_of_ne h.1 h.2
  · intro h
    refine ⟨(List.mergeSort_of_pairwise (h.imp fun hlt => by simpa using hlt.le)).symm,
      h.imp fun hlt => hlt.ne⟩

/-! ## Statements -/

/-- The values that the binding derives, and the statement from them with a given part under
`binding`. -/
structure Derives (L : Library β κ) (binding : CandidateBinding)
    (requirement : VerifierRequirement) (attestationId : String) (issuedAt expiresAt : ℚ)
    (checks : List AttestationCheck) (part payload : Document)
    (statement : List (String × Document)) (fingerprint bindingSha256 policy : String) :
    Prop where
  ofCandidate : binding.candidateFingerprint L = .ok fingerprint
  ofPayload : binding.payload L = .ok payload
  ofBinding : binding.bindingSha256 L = .ok bindingSha256
  ofPolicy : binding.verificationPolicy.policySha256 L = .ok policy
  parts : statement = statementOf (subjectOf binding fingerprint) part bindingSha256
    (metadataOf requirement policy attestationId issuedAt expiresAt) (outcomeOf checks)

/-- The lifetime of an attestation lies in the one of its binding. -/
def Lasts (binding : CandidateBinding) (issuedAt expiresAt : ℚ) : Prop :=
  issuedAt < expiresAt ∧ binding.createdAt ≤ issuedAt ∧ expiresAt ≤ binding.expiresAt

def InOrder (checks : List AttestationCheck) : Prop :=
  (checks.map AttestationCheck.checkId).Pairwise (· < ·)

def sorted (checks : List AttestationCheck) : List AttestationCheck :=
  checks.mergeSort fun c d => c.checkId ≤ d.checkId

variable {binding : CandidateBinding}

variable {requirement : VerifierRequirement}

theorem buildAttestationStatement_eq_ok {attestationId : String} {issuedAt expiresAt : ℚ} :
    buildAttestationStatement L binding requirement attestationId issuedAt expiresAt checks =
        .ok statement ↔ isSafeId attestationId = true ∧ 0 ≤ issuedAt ∧ 0 ≤ expiresAt ∧
        Lasts binding issuedAt expiresAt ∧
        (sorted checks ≠ [] ∧ ((sorted checks).map AttestationCheck.checkId).Nodup) ∧
        ∃ payload fingerprint bindingSha256 policy, Derives L binding requirement attestationId
          issuedAt expiresAt (sorted checks) payload payload statement fingerprint bindingSha256
          policy := by
  unfold buildAttestationStatement
  simp only [bind_eq_ok, check_eq_ok, exists_const, requireSafeId_eq_ok, pure_eq_ok_iff]
  constructor
  · rintro ⟨_, ⟨hid, hsafe⟩, hissued, hexpires, hlasts, hchecks, fingerprint, hfingerprint,
      payload, hpayload, bindingSha256, hsha, policy, hpolicy, rfl⟩
    cases hid
    exact ⟨hsafe, hissued, hexpires, hlasts, hchecks, payload, fingerprint, bindingSha256,
      policy, hfingerprint, hpayload, hsha, hpolicy, rfl⟩
  · rintro ⟨hsafe, hissued, hexpires, hlasts, hchecks, payload, fingerprint, bindingSha256,
      policy, hfingerprint, hpayload, hsha, hpolicy, rfl⟩
    exact ⟨attestationId, ⟨rfl, hsafe⟩, hissued, hexpires, hlasts, hchecks, fingerprint,
      hfingerprint, payload, hpayload, bindingSha256, hsha, policy, hpolicy, rfl⟩

theorem InOrder.sorted (h : InOrder checks) : sorted checks = checks :=
  List.mergeSort_of_pairwise ((List.pairwise_map.mp h).imp fun hlt => by simpa using hlt.le)

theorem InOrder.nodup (h : InOrder checks) : (checks.map AttestationCheck.checkId).Nodup :=
  h.imp fun hlt => hlt.ne

theorem eq_subjectOf {a : Document} {fingerprint : String} :
    a.datum = (subjectOf binding fingerprint).datum ↔ a = subjectOf binding fingerprint := by
  constructor
  · intro h
    simp only [subjectOf, Document.datum, Document.datumItems, Document.datumEntries,
      Document.datum_eq_list, Document.datumItems_eq_cons, Document.datumItems_eq_nil,
      Document.datum_eq_dict, Document.datumEntries_eq_cons, Document.datumEntries_eq_nil,
      Document.datum_eq_text] at h
    obtain ⟨_, rfl, _, _, rfl, ⟨_, rfl, _, _, rfl, ⟨_, rfl, _, _, rfl, rfl, rfl⟩, _, _, rfl, rfl,
      rfl⟩, rfl⟩ := h
    rfl
  · rintro rfl
    rfl

theorem validateStatement_eq_ok {now issuedAt expiresAt : ℚ} {attestationId : String} :
    validateStatement L statement binding requirement now =
        .ok (attestationId, issuedAt, expiresAt) ↔
      isSafeId attestationId = true ∧ 0 ≤ issuedAt ∧ 0 ≤ expiresAt ∧
        Lasts binding issuedAt expiresAt ∧ issuedAt ≤ now ∧ now ≤ expiresAt ∧
        ∃ checks part payload fingerprint bindingSha256 policy,
          checks ≠ [] ∧ InOrder checks ∧ (∀ c ∈ checks, c.passed = true) ∧
          part.datum = payload.datum ∧
          Derives L binding requirement attestationId issuedAt expiresAt checks part payload
            statement fingerprint bindingSha256 policy := by
  unfold validateStatement
  simp only [bind_eq_ok, check_eq_ok, exists_const, requireSafeId_eq_ok, pure_eq_ok_iff,
    entriesOf_eq_ok, timestamp_eq_ok, checksOf_eq_ok, readChecks_eq_ok, mapError_eq_ok,
    ordered_iff]
  constructor
  · rintro ⟨hkeys, fingerprint, hfingerprint, ⟨htype, hpredicateType, hsubject⟩, predicate,
      hpredicate, hpredicateKeys, hversion, payload, hpayload, hbinding, bindingSha256, hsha,
      hbindingSha, metadata, hmetadata, hmetadataKeys, policy, hpolicy, hidentity, id,
      ⟨hid, hsafe⟩, issued, ⟨hissuedAt, hissued⟩, expires, ⟨hexpiresAt, hexpires⟩,
      ⟨hlt, hcreated, hend, hfrom, huntil⟩, outcome, houtcome, houtcomeKeys, raw,
      ⟨hpassed, hraw, hne⟩, checks, ⟨rfl, hall⟩, hordered, expected, hexpected, hequal, hresult⟩
    simp only [Prod.mk.injEq] at hresult
    obtain ⟨rfl, rfl, rfl⟩ := hresult
    simp only [Document.keys_eq_cons, List.map_eq_nil_iff] at hkeys hpredicateKeys
    simp only [Document.keys_eq_cons, List.map_eq_nil_iff] at hmetadataKeys houtcomeKeys
    obtain ⟨t, _, rfl, p, _, rfl, pt, _, rfl, s, _, rfl, rfl⟩ := hkeys
    obtain ⟨md, _, rfl, part, _, rfl, bs, _, rfl, oc, _, rfl, sv, _, rfl, rfl⟩ := hpredicateKeys
    obtain ⟨m1, _, rfl, m2, _, rfl, m3, _, rfl, m4, _, rfl, m5, _, rfl, m6, _, rfl, m7, _, rfl,
      m8, _, rfl, m9, _, rfl, rfl⟩ := hmetadataKeys
    obtain ⟨cs, _, rfl, ps, _, rfl, rfl⟩ := houtcomeKeys
    simp at htype hpredicateType hpredicate
    simp [Document.same_some, eq_subjectOf] at hsubject
    subst htype hpredicateType hsubject hpredicate
    simp at hversion hbindingSha hmetadata houtcome
    simp [Document.same_some] at hbinding
    subst hversion hbindingSha hmetadata houtcome
    simp at hidentity hid hissuedAt hexpiresAt hpassed hraw
    obtain ⟨h9, h1, h5, h6, h7, h8⟩ := hidentity
    subst hid hissuedAt hexpiresAt hpassed hraw h9 h1 h5 h6 h7 h8
    have hpassed : checks.all (·.passed) = true := List.all_eq_true.mpr hall
    exact ⟨hsafe, hissued, hexpires, ⟨hlt, hcreated, hend⟩, hfrom, huntil, checks, part, payload,
      fingerprint, bindingSha256, policy, fun h => hne (by rw [h]; rfl), hordered, hall, hbinding,
      hfingerprint, hpayload, hsha, hpolicy, by rw [outcomeOf, hpassed]; rfl⟩
  · rintro ⟨hsafe, hissued, hexpires, hlasts, hfrom, huntil, checks, part, payload, fingerprint,
      bindingSha256, policy, hne, hordered, hall, hpart, hderives⟩
    obtain ⟨hfingerprint, hpayload, hsha, hpolicy, rfl⟩ := hderives
    have hpassed : checks.all (·.passed) = true := List.all_eq_true.mpr hall
    obtain ⟨hlt, hcreated, hend⟩ := hlasts
    have hbuild : buildAttestationStatement L binding requirement attestationId issuedAt
        expiresAt checks = .ok _ := buildAttestationStatement_eq_ok.mpr
      ⟨hsafe, hissued, hexpires, ⟨hlt, hcreated, hend⟩, hordered.sorted.symm ▸ ⟨hne,
        hordered.nodup⟩, payload, fingerprint, bindingSha256, policy, hfingerprint, hpayload,
        hsha, hpolicy, by rw [hordered.sorted]⟩
    refine ⟨rfl, fingerprint, hfingerprint, ⟨by simp [statementOf], by simp [statementOf], ?_⟩,
      _, by simp [statementOf]; rfl, rfl, by simp, payload, hpayload, ?_, bindingSha256, hsha,
      by simp, _, by simp; rfl, rfl, policy, hpolicy, by simp [metadataOf], attestationId,
      ⟨by simp [metadataOf], hsafe⟩, issuedAt, ⟨by simp [metadataOf], hissued⟩, expiresAt,
      ⟨by simp [metadataOf], hexpires⟩, ⟨hlt, hcreated, hend, hfrom, huntil⟩, _, by simp; rfl,
      rfl, _, ⟨by simp [outcomeOf, hpassed], by simp [outcomeOf], ?_⟩, checks, ⟨rfl, hall⟩,
      hordered, _, hbuild, ?_, rfl⟩
    · simp [statementOf, Document.same_some]
    · simp [Document.same_some, hpart]
    · simpa using hne
    · simp [statementOf, Document.datum, Document.datumEntries, hpart]

end LocalMoe.Attestation
