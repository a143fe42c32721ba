/-
  `cooperative_resource_claim_from_preview`: the claim of a freshly previewed cell.
-/
import LocalMoe.Lease.Store

namespace LocalMoe.Lease

open Foundation Contracts

/-! ## Evidence -/

inductive MemoryPool where
  | host
  | unified
  | accelerator
  deriving DecidableEq, Repr

inductive Placement where
  | cpu
  | integratedAccelerator
  | discreteAccelerator
  deriving DecidableEq, Repr

/-- The peaks of `CellEstimate` and of `CellMeasurement`. -/
structure CellPeaks where
  memoryPool : Option MemoryPool
  placement : Option Placement
  peakHostMemoryBytes : Option Nat
  peakUnifiedMemoryBytes : Option Nat
  peakAcceleratorMemoryBytes : Option Nat
  deriving DecidableEq, Repr

/-- `CellDeclaration`, with the fields a run reads. -/
structure CellDeclaration where
  digest : Digest
  riskClasses : List String
  toolSurfaces : List String
  deriving DecidableEq

structure CellPassport where
  cellId : SafeId
  digest : Digest
  declaration : CellDeclaration
  estimated : CellPeaks
  measured : CellPeaks
  deriving DecidableEq

structure AdvisorProfile where
  digest : Digest
  reserveMemoryBytes : Nat
  deriving DecidableEq

/-- `AdaptiveCellCatalog`; the profiles are a mapping. -/
structure AdaptiveCellCatalog where
  digest : Digest
  profiles : String → Option AdvisorProfile
  cells : List CellPassport

structure CandidateAssessment where
  cellId : SafeId
  passportSha256 : Digest
  digest : Digest
  hardEligible : Bool
  paretoEligible : Bool
  memoryPool : Option MemoryPool
  placement : Option Placement
  effectivePeakHostMemoryBytes : Option Nat
  effectivePeakUnifiedMemoryBytes : Option Nat
  effectivePeakAcceleratorMemoryBytes : Option Nat
  deriving DecidableEq

/-- `AdaptiveAdvisorReceipt` with its request and its advice. -/
structure AdaptiveAdvisorReceipt where
  digest : Digest
  taskChars : Nat
  requestProfile : String
  requestDigest : Digest
  requestEvaluatedAt : String
  adviceStatus : String
  adviceProfile : String
  adviceCatalogSha256 : Digest
  adviceResourceSnapshotSha256 : Digest
  selectedCellId : Option SafeId
  candidates : List CandidateAssessment

inductive PreviewStatus where
  | admissionPassed
  | admissionBlocked
  deriving DecidableEq, Repr

structure PreviewReceipt where
  digest : Digest
  status : PreviewStatus
  taskChars : Nat
  evaluatedAt : String
  freshAdvisorReceiptSha256 : Digest
  freshRequestSha256 : Digest
  freshResourceSnapshotSha256 : Digest
  freshSelectedCellId : Option SafeId
  freshPassportSha256 : Option Digest
  deriving DecidableEq

/-- `AdaptiveCellExecutionPreviewEvaluation`; its constructor checks that the receipt,
the advice and the evidence name each other. -/
structure PreviewEvaluation where
  receipt : PreviewReceipt
  freshAdvisorReceipt : AdaptiveAdvisorReceipt
  resourceSnapshot : ResourceSnapshot
  catalog : AdaptiveCellCatalog
  linked : receipt.freshAdvisorReceiptSha256 = freshAdvisorReceipt.digest ∧
    receipt.freshResourceSnapshotSha256.val = resourceSnapshot.digest ∧
    freshAdvisorReceipt.adviceResourceSnapshotSha256.val = resourceSnapshot.digest ∧
    freshAdvisorReceipt.adviceCatalogSha256 = catalog.digest

/-! ## The derivation -/

/-- The larger of an estimate and a measurement. -/
def largerPeak : Option Nat → Option Nat → Option Nat
  | none, measurement => measurement
  | estimate, none => estimate
  | some estimate, some measurement => some (max estimate measurement)

def conservativePeakResources (p : CellPassport) : Option Nat × Option Nat × Option Nat :=
  if p.estimated.memoryPool = none ∨ p.estimated.placement = none then (none, none, none)
  else
    let applies := p.measured.memoryPool = p.estimated.memoryPool ∧
      p.measured.placement = p.estimated.placement
    let measured := fun peak : Option Nat => if applies then peak else none
    (largerPeak p.estimated.peakHostMemoryBytes (measured p.measured.peakHostMemoryBytes),
      largerPeak p.estimated.peakUnifiedMemoryBytes
        (measured p.measured.peakUnifiedMemoryBytes),
      largerPeak p.estimated.peakAcceleratorMemoryBytes
        (measured p.measured.peakAcceleratorMemoryBytes))

/-- `CooperativeResourceLeaseStoreError("lease_claim_invalid", ...)`. -/
def claimInvalid (message : String) : StoreError := ⟨"lease_claim_invalid", message⟩

/-- The pool of a candidate, its bytes there and on the accelerator, and the identity. -/
def claimedPool (candidate : CandidateAssessment) (snapshot : ResourceSnapshot) :
    Except StoreError (Pool × Option Nat × Nat × Option String) :=
  if candidate.memoryPool = some .host ∧ candidate.placement = some .cpu then
    .ok (.system, candidate.effectivePeakHostMemoryBytes, 0, none)
  else if candidate.memoryPool = some .unified ∧
      candidate.placement = some .integratedAccelerator then
    if snapshot.memoryTopology ≠ .unified ∨ snapshot.acceleratorKind ≠ .integrated then
      .error (claimInvalid "Unified candidate and snapshot do not match.")
    else .ok (.unified, candidate.effectivePeakUnifiedMemoryBytes, 0, none)
  else if candidate.memoryPool = some .accelerator ∧
      candidate.placement = some .discreteAccelerator then
    if snapshot.memoryTopology ≠ .dedicated ∨ snapshot.acceleratorKind ≠ .discrete ∨
        snapshot.acceleratorIdentitySha256 = none then
      .error (claimInvalid "Discrete candidate and snapshot do not match.")
    else
      .ok (.discrete, candidate.effectivePeakHostMemoryBytes,
        candidate.effectivePeakAcceleratorMemoryBytes.getD 0,
        snapshot.acceleratorIdentitySha256)
  else .error (claimInvalid "Candidate memory placement is unsupported.")

def CooperativeResourceClaim.construct (fields : ClaimFields) :
    Except ContractError CooperativeResourceClaim :=
  match h : fields.postInit with
  | .ok () => .ok ⟨fields, h⟩
  | .error e => .error e

def selectedCandidate (advisor : AdaptiveAdvisorReceipt) :
    Except StoreError CandidateAssessment :=
  match advisor.candidates.filter (fun item => some item.cellId = advisor.selectedCellId) with
  | [candidate] => .ok candidate
  | _ => .error (claimInvalid "The fresh Advisor selection is not unique.")

def requestedProfile (catalog : AdaptiveCellCatalog) (advisor : AdaptiveAdvisorReceipt) :
    Except StoreError AdvisorProfile :=
  match catalog.profiles advisor.requestProfile with
  | some profile => .ok profile
  | none =>
    .error (claimInvalid "Candidate, passport, catalog, and profile are not exactly linked.")

/-- The links `cooperative_resource_claim_from_preview` demands between its arguments. -/
def LinkedEvidence (preview : PreviewReceipt) (advisor : AdaptiveAdvisorReceipt)
    (passport : CellPassport) (catalog : AdaptiveCellCatalog) (snapshot : ResourceSnapshot)
    (candidate : CandidateAssessment) : Prop :=
  (catalog.cells.filter fun cell =>
      cell.cellId = passport.cellId ∧ cell.digest = passport.digest).length = 1 ∧
    candidate.hardEligible = true ∧ candidate.paretoEligible = true ∧
    preview.freshAdvisorReceiptSha256 = advisor.digest ∧
    preview.freshRequestSha256 = advisor.requestDigest ∧
    preview.freshResourceSnapshotSha256.val = snapshot.digest ∧
    preview.evaluatedAt = advisor.requestEvaluatedAt ∧
    preview.taskChars = advisor.taskChars ∧
    preview.freshSelectedCellId = advisor.selectedCellId ∧
    preview.freshPassportSha256 = some passport.digest ∧
    advisor.adviceCatalogSha256 = catalog.digest ∧
    advisor.adviceResourceSnapshotSha256.val = snapshot.digest ∧
    advisor.adviceProfile = advisor.requestProfile ∧
    advisor.adviceStatus = "recommended" ∧
    candidate.cellId = passport.cellId ∧
    candidate.passportSha256 = passport.digest ∧
    candidate.memoryPool = passport.estimated.memoryPool ∧
    candidate.placement = passport.estimated.placement

instance (preview : PreviewReceipt) (advisor : AdaptiveAdvisorReceipt)
    (passport : CellPassport) (catalog : AdaptiveCellCatalog) (snapshot : ResourceSnapshot)
    (candidate : CandidateAssessment) :
    Decidable (LinkedEvidence preview advisor passport catalog snapshot candidate) :=
  inferInstanceAs (Decidable (_ ∧ _))

def cooperativeResourceClaimFromPreview (preview : PreviewReceipt)
    (advisor : AdaptiveAdvisorReceipt) (passport : CellPassport)
    (catalog : AdaptiveCellCatalog) (snapshot : ResourceSnapshot) :
    Except StoreError CooperativeResourceClaim := do
  check (preview.status = .admissionPassed)
    (claimInvalid "A passed execution preview is required.")
  let candidate ← selectedCandidate advisor
  let profile ← requestedProfile catalog advisor
  check (LinkedEvidence preview advisor passport catalog snapshot candidate)
    (claimInvalid "Candidate, passport, catalog, and profile are not exactly linked.")
  check (conservativePeakResources passport =
      (candidate.effectivePeakHostMemoryBytes, candidate.effectivePeakUnifiedMemoryBytes,
        candidate.effectivePeakAcceleratorMemoryBytes))
    (claimInvalid "Candidate conservative peaks do not match passport evidence.")
  let (pool, systemBytes, acceleratorBytes, identity) ← claimedPool candidate snapshot
  match systemBytes with
  | none => .error (claimInvalid "Candidate peak memory evidence is incomplete.")
  | some bytes => do
    check (bytes ≠ 0) (claimInvalid "Candidate peak memory evidence is incomplete.")
    (CooperativeResourceClaim.construct
      { previewSha256 := preview.digest
        candidateSha256 := candidate.digest
        passportSha256 := candidate.passportSha256
        resourceSnapshotSha256 := snapshot.digest
        resourceClassSha256 := snapshot.resourceClassSha256
        catalogSha256 := catalog.digest
        profileSha256 := profile.digest
        pool := pool
        systemClaimBytes := bytes
        acceleratorClaimBytes := acceleratorBytes
        acceleratorIdentitySha256 := identity
        safetyReserveBytes := profile.reserveMemoryBytes }).mapError
      fun _ => claimInvalid "Candidate peak claim is invalid."

variable {claim : CooperativeResourceClaim}

theorem CooperativeResourceClaim.construct_toClaimFields :
    construct claim.toClaimFields = .ok claim := by
  unfold construct
  split
  · rfl
  · next h =>
    rw [claim.accepted] at h
    cases h

theorem CooperativeResourceClaim.construct_eq_ok {fields : ClaimFields}
    (h : construct fields = .ok claim) : claim.toClaimFields = fields := by
  unfold construct at h
  split at h
  · cases h; rfl
  · cases h

theorem claimFromPreview_eq_ok {preview : PreviewReceipt} {advisor : AdaptiveAdvisorReceipt}
    {passport : CellPassport} {catalog : AdaptiveCellCatalog} {snapshot : ResourceSnapshot}
    (h : cooperativeResourceClaimFromPreview preview advisor passport catalog snapshot =
      .ok claim) : claim.previewSha256 = preview.digest ∧
      preview.freshPassportSha256.map Subtype.val = some claim.passportSha256 := by
  simp only [cooperativeResourceClaimFromPreview, bind_eq_ok, check_eq_ok] at h
  obtain ⟨_, -, candidate, -, profile, -, _, hlinked, _, -, pool, -, h⟩ := h
  split at h
  · cases h
  · simp only [bind_eq_ok, check_eq_ok, mapError_eq_ok] at h
    obtain ⟨_, -, h⟩ := h
    have hfields := CooperativeResourceClaim.construct_eq_ok h
    obtain ⟨-, -, -, -, -, -, -, -, -, hpassport, -, -, -, -, -, hcandidate, -, -⟩ := hlinked
    rw [hfields, hpassport, hcandidate]
    exact ⟨rfl, rfl⟩

end LocalMoe.Lease
