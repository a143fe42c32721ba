/-
  `load_and_verify_canary_authorization` and the chronology it keeps: no activation is rolled
  back and no two are issued in one second.
-/
import LocalMoe.Canary.Contracts
import LocalMoe.Contracts.Sha256
import LocalMoe.Foundation.Machine

namespace LocalMoe.Canary

open Foundation Contracts

/-! ## The call -/

/-- The decoders and the signature scheme the call uses. -/
structure Codec where
  /-- `_strict_json_loads`. -/
  strictJsonLoads : List UInt8 → Except ContractError Json
  /-- `_decode_base64`. -/
  decodeBase64 : String → Except ContractError (List UInt8)
  /-- `ed25519_public_key_sha256` of `load_ed25519_public_key_pem`. -/
  publicKeySha256 : List UInt8 → Except ContractError String
  /-- `Ed25519PublicKey.verify` of a PEM file, a signature and a message. -/
  verify : List UInt8 → List UInt8 → List UInt8 → Bool

/-- What the call uses of `VerifiedRoutingRuntimeConfig`. -/
structure RuntimeConfig where
  operatorKeyId : String
  operatorPublicKeySha256 : Digest
  sourceSha256 : Digest

/-- The argument `now`. -/
inductive Now where
  | omitted
  | text (value : String)
  /-- A UTC datetime. -/
  | instant (second : DateTime) (microsecond : Nat)
  | otherZone

/-- What the file system does to the chronology. -/
inductive Storage where
  | healthy
  /-- The directory, the lock or the file is not available. -/
  | unreadable
  /-- The new file is not put in place. -/
  | unwritable
  /-- The new file is in place, and the caller gets an exception or crashes. -/
  | unanswered
  deriving DecidableEq, Repr

/-- A call, with the files it reads. -/
structure Call where
  authorizationFile : Except ContractError (List UInt8)
  publicKeyFile : Except ContractError (List UInt8)
  manifest : VerifiedRoutingCanaryManifest
  runtime : RuntimeConfig
  bridgeConfigSha256 : String
  now : Now
  /-- `datetime.now`. -/
  clock : DateTime
  storage : Storage

structure VerifiedCanaryAuthority where
  authorization : VerifiedRoutingCanaryAuthorization
  verifiedAt : DateTime
  runtimeConfigSha256 : Digest

def authorizationPayloadType : String :=
  "application/vnd.mymoe.verified-routing-canary-authorization+json"

def utf8 (text : String) : List UInt8 := text.toList.flatMap String.utf8EncodeChar

def dssePae (payloadType : String) (payload : List UInt8) : List UInt8 :=
  let encodedType := utf8 payloadType
  utf8 "DSSEv1 " ++ utf8 (toString encodedType.length) ++ utf8 " " ++ encodedType ++ utf8 " " ++
    utf8 (toString payload.length) ++ utf8 " " ++ payload

def isText (value : Json) (text : String) : Bool :=
  match value with
  | .str s => s = text
  | _ => false

/-- The string of a value, or the given failure. -/
def requireText (value : Json) (message : String) : Except ContractError String :=
  match value with
  | .str s => .ok s
  | _ => .error ⟨message⟩

/-- The keys of an object are these, in any order. -/
def hasFields (fields : List (String × Json)) (keys : List String) : Prop :=
  (∀ f ∈ fields, f.1 ∈ keys) ∧ ∀ key ∈ keys, key ∈ fields.map Prod.fst

instance (fields : List (String × Json)) (keys : List String) :
    Decidable (hasFields fields keys) := inferInstanceAs (Decidable (_ ∧ _))

/-- The fields of an object, or the given failure. -/
def objectFields (value : Json) (message : String) :
    Except ContractError (List (String × Json)) :=
  match value with
  | .obj fields => .ok fields
  | _ => .error ⟨message⟩

def signatureFields : Json → Except ContractError (List (String × Json))
  | .arr [signature] =>
    objectFields signature
      "canary authorization signature must be an object with string keys."
  | _ => .error ⟨"Canary authorization requires one signature."⟩

section Verification

variable (S : Stdlib) (C : Codec)

/-- `_timestamp` of the time of the call. -/
def Call.observedAt (call : Call) : Except ContractError DateTime :=
  match call.now with
  | .omitted => .ok call.clock
  | .text value => if value = "" then .ok call.clock else timestamp S value "timestamp"
  | .instant second _ => .ok second
  | .otherZone => .error ⟨"Timestamp must use UTC."⟩

/-- The authorization in the envelope, with a valid signature of the operator. -/
def Call.signedAuthorization (call : Call) :
    Except ContractError VerifiedRoutingCanaryAuthorization := do
  let file ← call.authorizationFile
  let envelope ← objectFields (← C.strictJsonLoads file)
    "Canary authorization envelope is invalid."
  check (hasFields envelope ["payloadType", "payload", "signatures"])
    (⟨"Canary authorization envelope is invalid."⟩ : ContractError)
  check (isText (field envelope "payloadType") authorizationPayloadType = true)
    (⟨"Canary authorization payload type is invalid."⟩ : ContractError)
  let signature ← signatureFields (field envelope "signatures")
  check (hasFields signature ["keyid", "sig"] ∧
      isText (field signature "keyid") call.runtime.operatorKeyId = true)
    (⟨"Canary authorization signature descriptor is invalid."⟩ : ContractError)
  let sig ← requireText (field signature "sig")
    "Canary authorization signature descriptor is invalid."
  let payload ← requireText (field envelope "payload")
    "Canary authorization payload encoding is invalid."
  let payloadBytes ← C.decodeBase64 payload
  let payloadRaw ← C.strictJsonLoads payloadBytes
  let canonical ← canonicalJsonBytes payloadRaw
  check (canonical = payloadBytes)
    (⟨"Canary authorization payload is not canonical JSON."⟩ : ContractError)
  let authorization ← VerifiedRoutingCanaryAuthorization.fromPayload S payloadRaw
  check (authorization.operatorKeyId = call.runtime.operatorKeyId)
    (⟨"Canary authorization operator key is not trusted."⟩ : ContractError)
  let publicKey ← call.publicKeyFile
  let keySha256 ← C.publicKeySha256 publicKey
  check (keySha256 = call.runtime.operatorPublicKeySha256.val)
    (⟨"Operator public key does not match the trust policy."⟩ : ContractError)
  let signatureBytes ← C.decodeBase64 sig
  check (C.verify publicKey signatureBytes (dssePae authorizationPayloadType payloadBytes) = true)
    (⟨"Canary authorization signature is invalid."⟩ : ContractError)
  pure authorization

def Call.checkBindings (call : Call) (authorization : VerifiedRoutingCanaryAuthorization)
    (current : DateTime) : Except ContractError Unit := do
  let manifest := call.manifest
  check (authorization.notBefore.ordinal ≤ current.ordinal ∧
      current.ordinal < authorization.expiresAt.ordinal)
    (⟨"Canary authorization is not currently active."⟩ : ContractError)
  check (manifest.notBefore.ordinal ≤ current.ordinal ∧
      current.ordinal < manifest.expiresAt.ordinal)
    (⟨"Canary manifest is not currently active."⟩ : ContractError)
  check (manifest.lineage.pricingSha256 ≠ none)
    (⟨"Legacy canary manifest without pricing lineage cannot be activated."⟩ : ContractError)
  check (authorization.manifestSha256 = manifest.manifestSha256.val)
    (⟨"Canary authorization bindings are invalid."⟩ : ContractError)
  let bridgeConfigSha256 ← requireSha256 call.bridgeConfigSha256 "bridge_config_sha256"
  check (authorization.bridgeConfigSha256 = bridgeConfigSha256 ∧
      authorization.routePolicyDigest = manifest.lineage.routePolicyDigest.val ∧
      authorization.scorecardDigest = manifest.lineage.scorecardDigest.val ∧
      manifest.canaryBasisPoints ≤ authorization.maximumCanaryBasisPoints ∧
      manifest.notBefore.ordinal ≤ authorization.notBefore.ordinal ∧
      authorization.expiresAt.ordinal ≤ manifest.expiresAt.ordinal)
    (⟨"Canary authorization bindings are invalid."⟩ : ContractError)

/-! ## The chronology -/

def chronologyFields : List String :=
  ["schema_version", "contract", "operator_key_id", "latest_issued_at",
    "latest_activation_id", "latest_manifest_sha256", "latest_authorization_sha256",
    "last_observed_at", "state_sha256"]

/-- The checks against the chronology on file. -/
def checkChronology (runtime : RuntimeConfig)
    (authorization : VerifiedRoutingCanaryAuthorization)
    (manifest : VerifiedRoutingCanaryManifest) (observedAt : DateTime) (previous : Json) :
    Except ContractError Unit := do
  let fields ← objectFields previous "canary chronology must be an object with string keys."
  requireFields fields chronologyFields "canary chronology" "Canary chronology is incomplete."
  let claimed ← requireSha256 (Json.text (field fields "state_sha256"))
    "chronology state_sha256"
  let digest ← S.canonicalSha256 (.obj (fields.filter fun f => f.1 ≠ "state_sha256"))
  check (digest = claimed) (⟨"Canary chronology digest is invalid."⟩ : ContractError)
  check (isText (field fields "schema_version") contractVersion = true ∧
      isText (field fields "contract") "VerifiedRoutingCanaryChronology" = true ∧
      isText (field fields "operator_key_id") runtime.operatorKeyId = true)
    (⟨"Canary chronology trust binding is invalid."⟩ : ContractError)
  let lastObserved ← timestamp S (Json.text (field fields "last_observed_at")) "timestamp"
  let latestIssued ← timestamp S (Json.text (field fields "latest_issued_at")) "timestamp"
  check (lastObserved.ordinal ≤ observedAt.ordinal)
    (⟨"Canary chronology detected clock rollback."⟩ : ContractError)
  check (latestIssued.ordinal ≤ authorization.issuedAt.ordinal)
    (⟨"Canary chronology rejected activation rollback."⟩ : ContractError)
  check (authorization.issuedAt.ordinal = latestIssued.ordinal →
      isText (field fields "latest_activation_id") authorization.activationId = true ∧
      isText (field fields "latest_manifest_sha256") manifest.manifestSha256.val = true ∧
      isText (field fields "latest_authorization_sha256")
        authorization.authorizationSha256 = true)
    (⟨"Canary chronology detected signed equivocation."⟩ : ContractError)

def chronologyContent (runtime : RuntimeConfig)
    (authorization : VerifiedRoutingCanaryAuthorization)
    (manifest : VerifiedRoutingCanaryManifest) (observedAt : DateTime) :
    List (String × Json) :=
  [("schema_version", .str contractVersion),
    ("contract", .str "VerifiedRoutingCanaryChronology"),
    ("operator_key_id", .str runtime.operatorKeyId),
    ("latest_issued_at", .str authorization.issuedAt.isoformat),
    ("latest_activation_id", .str authorization.activationId),
    ("latest_manifest_sha256", .str manifest.manifestSha256.val),
    ("latest_authorization_sha256", .str authorization.authorizationSha256),
    ("last_observed_at", .str observedAt.isoformat)]

/-- The checks against the file, if there is one. -/
def checkPrevious (runtime : RuntimeConfig)
    (authorization : VerifiedRoutingCanaryAuthorization)
    (manifest : VerifiedRoutingCanaryManifest) (observedAt : DateTime) :
    Option Json → Except ContractError Unit
  | none => .ok ()
  | some previous => checkChronology S runtime authorization manifest observedAt previous

/-- The value `_record_trusted_chronology` writes, once what is on file permits it. -/
def nextChronology (storage : Storage) (runtime : RuntimeConfig)
    (authorization : VerifiedRoutingCanaryAuthorization)
    (manifest : VerifiedRoutingCanaryManifest) (observedAt : DateTime) (file : Option Json) :
    Except ContractError Json := do
  check (storage ≠ .unreadable) (⟨"Canary chronology lock is unavailable."⟩ : ContractError)
  checkPrevious S runtime authorization manifest observedAt file
  let content := chronologyContent runtime authorization manifest observedAt
  let digest ← S.canonicalSha256 (.obj content)
  pure (.obj (content ++ [("state_sha256", .str digest)]))

/-- `_record_trusted_chronology`; the file is the value that is read from it. -/
def recordTrustedChronology (storage : Storage) (runtime : RuntimeConfig)
    (authorization : VerifiedRoutingCanaryAuthorization)
    (manifest : VerifiedRoutingCanaryManifest) (observedAt : DateTime) (file : Option Json) :
    Except ContractError Unit × Option Json :=
  match nextChronology S storage runtime authorization manifest observedAt file with
  | .error e => (.error e, file)
  | .ok payload =>
    match storage with
    | .unwritable =>
      (.error ⟨"Canary chronology cannot be persisted safely."⟩, file)
    | .unanswered =>
      (.error ⟨"Canary chronology cannot be persisted safely."⟩, some payload)
    | _ => (.ok (), some payload)

def loadAndVerify (call : Call) (file : Option Json) :
    Except ContractError VerifiedCanaryAuthority × Option Json :=
  match (do
    let authorization ← call.signedAuthorization S C
    let current ← call.observedAt S
    call.checkBindings authorization current
    pure (authorization, current)) with
  | .error e => (.error e, file)
  | .ok (authorization, current) =>
    match recordTrustedChronology S call.storage call.runtime authorization call.manifest
        current file with
    | (.error e, file') => (.error e, file')
    | (.ok (), file') => (.ok ⟨authorization, current, call.runtime.sourceSha256⟩, file')

/-- All processes that share one chronology. -/
def chronology : Machine (Option Json) Call (Except ContractError VerifiedCanaryAuthority) where
  init := none
  step file call := loadAndVerify S C call file

end Verification

/-! ## Marks -/

/-- What the chronology remembers of a call. -/
structure Mark where
  observedAt : DateTime
  issuedAt : DateTime
  activationId : String
  manifestSha256 : String
  authorizationSha256 : String

/-- The second mark is not before the first, and is the same activation if it was issued in
the same second. -/
def Mark.Follows (m m' : Mark) : Prop :=
  m.observedAt.ordinal ≤ m'.observedAt.ordinal ∧ m.issuedAt.ordinal ≤ m'.issuedAt.ordinal ∧
    (m'.issuedAt.ordinal = m.issuedAt.ordinal → m'.activationId = m.activationId ∧
      m'.manifestSha256 = m.manifestSha256 ∧ m'.authorizationSha256 = m.authorizationSha256)

theorem Mark.Follows.trans {m m' m'' : Mark} (h : m.Follows m') (h' : m'.Follows m'') :
    m.Follows m'' := by
  obtain ⟨hobserved, hissued, hsame⟩ := h
  obtain ⟨hobserved', hissued', hsame'⟩ := h'
  refine ⟨hobserved.trans hobserved', hissued.trans hissued', fun heq => ?_⟩
  obtain ⟨ha', hm', hd'⟩ := hsame' (by omega)
  obtain ⟨ha, hm, hd⟩ := hsame (by omega)
  exact ⟨ha'.trans ha, hm'.trans hm, hd'.trans hd⟩

section Marks

variable {S : Stdlib}

/-- The mark of a call that was recorded. -/
def markOf (authorization : VerifiedRoutingCanaryAuthorization)
    (manifest : VerifiedRoutingCanaryManifest) (observedAt : DateTime) : Mark where
  observedAt := observedAt
  issuedAt := authorization.issuedAt
  activationId := authorization.activationId
  manifestSha256 := manifest.manifestSha256.val
  authorizationSha256 := authorization.authorizationSha256

structure Holds (S : Stdlib) (file : Option Json) (m : Mark) : Prop where
  fields : ∃ fields, file = some (.obj fields) ∧
    timestamp S (Json.text (field fields "last_observed_at")) "timestamp" = .ok m.observedAt ∧
    timestamp S (Json.text (field fields "latest_issued_at")) "timestamp" = .ok m.issuedAt ∧
    field fields "latest_activation_id" = .str m.activationId ∧
    field fields "latest_manifest_sha256" = .str m.manifestSha256 ∧
    field fields "latest_authorization_sha256" = .str m.authorizationSha256

theorem isText_str {s text : String} : isText (.str s) text = true ↔ s = text := by
  simp [isText]

variable {file : Option Json}

variable {authorization : VerifiedRoutingCanaryAuthorization}
  {manifest : VerifiedRoutingCanaryManifest}

theorem holds_of_next {storage : Storage} {runtime : RuntimeConfig} {observedAt : DateTime}
    {payload : Json}
    (h : nextChronology S storage runtime authorization manifest observedAt file = .ok payload) :
    Holds S (some payload) (markOf authorization manifest observedAt) := by
  simp only [nextChronology, bind_eq_ok, pure_eq_ok_iff] at h
  obtain ⟨_, -, _, -, digest, -, rfl⟩ := h
  refine ⟨_, rfl, ?_, ?_, rfl, rfl, rfl⟩
  · exact timestamp_isoformat S observedAt "timestamp"
  · exact timestamp_isoformat S authorization.issuedAt "timestamp"

theorem follows_of_next {storage : Storage} {runtime : RuntimeConfig} {observedAt : DateTime}
    {payload : Json} {m : Mark} (hm : Holds S file m)
    (h : nextChronology S storage runtime authorization manifest observedAt file = .ok payload) :
    m.Follows (markOf authorization manifest observedAt) := by
  obtain ⟨fields, rfl, hobserved, hissued, hactivation, hmanifest, hauthorization⟩ := hm.fields
  simp only [nextChronology, bind_eq_ok, pure_eq_ok_iff] at h
  obtain ⟨_, -, _, hcheck, -⟩ := h
  simp only [checkPrevious, checkChronology, objectFields, bind_eq_ok, check_eq_ok] at hcheck
  obtain ⟨_, hfields, _, -, _, -, _, -, _, -, _, -, lastObserved, hlast, latestIssued, hlatest,
    _, hclock, _, hrollback, hequivocation⟩ := hcheck
  cases hfields
  rw [hobserved] at hlast
  rw [hissued] at hlatest
  cases hlast
  cases hlatest
  refine ⟨hclock, hrollback, fun heq => ?_⟩
  obtain ⟨ha, hd, hs⟩ := hequivocation heq
  rw [hactivation, isText_str] at ha
  rw [hmanifest, isText_str] at hd
  rw [hauthorization, isText_str] at hs
  exact ⟨ha.symm, hd.symm, hs.symm⟩

theorem record_cases (storage : Storage) (runtime : RuntimeConfig)
    (authorization : VerifiedRoutingCanaryAuthorization)
    (manifest : VerifiedRoutingCanaryManifest) (observedAt : DateTime) (file : Option Json) :
    ((recordTrustedChronology S storage runtime authorization manifest observedAt file).2 =
        file ∧ ∃ e, (recordTrustedChronology S storage runtime authorization manifest
          observedAt file).1 = .error e) ∨
      (Holds S (recordTrustedChronology S storage runtime authorization manifest observedAt
          file).2 (markOf authorization manifest observedAt) ∧
        ∀ m, Holds S file m → m.Follows (markOf authorization manifest observedAt)) := by
  unfold recordTrustedChronology
  split
  · exact .inl ⟨rfl, _, rfl⟩
  · rename_i payload hnext
    split
    · exact .inl ⟨rfl, _, rfl⟩
    · exact .inr ⟨holds_of_next hnext, fun m hm => follows_of_next hm hnext⟩
    · exact .inr ⟨holds_of_next hnext, fun m hm => follows_of_next hm hnext⟩

/-- The file holds a mark that follows this one. -/
def AtLeast (S : Stdlib) (m : Mark) (file : Option Json) : Prop :=
  ∃ m', Holds S file m' ∧ m.Follows m'

variable {C : Codec}

/-- The facts behind a success. -/
structure Verified (S : Stdlib) (C : Codec) (call : Call) (file : Option Json)
    (authority : VerifiedCanaryAuthority) : Prop where
  signed : call.signedAuthorization S C = .ok authority.authorization
  observed : call.observedAt S = .ok authority.verifiedAt
  bindings : call.checkBindings authority.authorization authority.verifiedAt = .ok ()
  held : Holds S (loadAndVerify S C call file).2
    (markOf authority.authorization call.manifest authority.verifiedAt)
  follows : ∀ m, Holds S file m →
    m.Follows (markOf authority.authorization call.manifest authority.verifiedAt)

theorem loadAndVerify_eq_ok {call : Call} {authority : VerifiedCanaryAuthority}
    (h : (loadAndVerify S C call file).1 = .ok authority) :
    Verified S C call file authority := by
  unfold loadAndVerify at h
  split at h
  · cases h
  · rename_i authorization current hverified
    have hstate : (loadAndVerify S C call file).2 = (recordTrustedChronology S call.storage
        call.runtime authorization call.manifest current file).2 := by
      unfold loadAndVerify
      rw [hverified]
      dsimp only
      split <;> rename_i hrecord <;> rw [hrecord]
    simp only [bind_eq_ok, pure_eq_ok_iff] at hverified
    obtain ⟨_, hsigned, _, hobserved, _, hbindings, hpair⟩ := hverified
    cases hpair
    rcases record_cases (S := S) call.storage call.runtime authorization call.manifest current
      file with ⟨-, e, herror⟩ | ⟨hheld, hfollows⟩
    · split at h
      · cases h
      · rename_i hrecord
        rw [hrecord] at herror
        cases herror
    · split at h
      · cases h
      · cases h
        exact ⟨hsigned, hobserved, hbindings, hstate ▸ hheld, hfollows⟩

theorem AtLeast.next {m : Mark} (h : AtLeast S m file) (call : Call) :
    AtLeast S m ((chronology S C).next file call) := by
  obtain ⟨m', hheld, hfollows⟩ := h
  change AtLeast S m (loadAndVerify S C call file).2
  unfold loadAndVerify
  split
  · exact ⟨m', hheld, hfollows⟩
  · rename_i authorization current _
    have hrecord := record_cases (S := S) call.storage call.runtime authorization
      call.manifest current file
    split <;> rename_i heq <;> rw [heq] at hrecord
    all_goals
      rcases hrecord with ⟨hsame, -⟩ | ⟨hnew, hnext⟩
      · exact ⟨m', hsame ▸ hheld, hfollows⟩
      · exact ⟨_, hnew, hfollows.trans (hnext m' hheld)⟩

theorem atLeast_stable (m : Mark) : (chronology S C).Stable (AtLeast S m) :=
  fun _ call h => h.next call

theorem Mark.Follows.refl (m : Mark) : m.Follows m := ⟨le_refl _, le_refl _, fun _ => ⟨rfl, rfl, rfl⟩⟩

end Marks

/-- In every history of calls on one chronology: every success lies inside both windows, its
window inside the manifest's and the cohort of the manifest inside its cap; and of two successes
the later one observed and was issued no earlier, and is the same activation if it was issued in
the same second. -/
theorem activation_monotone (S : Stdlib) (C : Codec) (file : Option Json)
    (before : List Call) (call : Call) (authority : VerifiedCanaryAuthority)
    (hcall : (loadAndVerify S C call ((chronology S C).exec file before)).1 = .ok authority) :
    (authority.authorization.notBefore.ordinal ≤ authority.verifiedAt.ordinal ∧
      authority.verifiedAt.ordinal < authority.authorization.expiresAt.ordinal ∧
      call.manifest.notBefore.ordinal ≤ authority.verifiedAt.ordinal ∧
      authority.verifiedAt.ordinal < call.manifest.expiresAt.ordinal) ∧
    (call.manifest.notBefore.ordinal ≤ authority.authorization.notBefore.ordinal ∧
      authority.authorization.expiresAt.ordinal ≤ call.manifest.expiresAt.ordinal ∧
      call.manifest.canaryBasisPoints ≤ authority.authorization.maximumCanaryBasisPoints) ∧
    ∀ between later authority', (loadAndVerify S C later ((chronology S C).exec file
        (before ++ call :: between))).1 = .ok authority' →
      (markOf authority.authorization call.manifest authority.verifiedAt).Follows
        (markOf authority'.authorization later.manifest authority'.verifiedAt) := by
  have hfirst := loadAndVerify_eq_ok hcall
  have hbindings := hfirst.bindings
  simp only [Call.checkBindings, bind_eq_ok, check_eq_ok] at hbindings
  obtain ⟨_, hwindow, _, hmanifest, _, -, _, -, _, -, -, -, -, hcap, hbegin, hend⟩ := hbindings
  refine ⟨⟨hwindow.1, hwindow.2, hmanifest.1, hmanifest.2⟩, ⟨hbegin, hend, hcap⟩, ?_⟩
  intro between later authority' hlater
  have hheld : AtLeast S (markOf authority.authorization call.manifest authority.verifiedAt)
      ((chronology S C).exec file (before ++ [call])) := by
    rw [Machine.exec_concat]
    exact ⟨_, hfirst.held, .refl _⟩
  have hlast := (atLeast_stable (C := C) _).exec hheld between
  rw [← Machine.exec_append, List.append_assoc, List.singleton_append] at hlast
  obtain ⟨m, hm, hfollows⟩ := hlast
  exact hfollows.trans ((loadAndVerify_eq_ok hlater).follows m hm)

/-! ### An activation -/

def envelopeOf (payload keyid sig : String) : Json :=
  .obj [("payloadType", .str authorizationPayloadType), ("payload", .str payload),
    ("signatures", .arr [.obj [("keyid", .str keyid), ("sig", .str sig)]])]

theorem signedAuthorization_of_envelope {S : Stdlib} {C : Codec} {call : Call}
    {file payloadBytes signatureBytes pem : List UInt8} {payload sig : String}
    {payloadRaw : Json} {authorization : VerifiedRoutingCanaryAuthorization}
    (hfile : call.authorizationFile = .ok file)
    (henvelope : C.strictJsonLoads file =
      .ok (envelopeOf payload call.runtime.operatorKeyId sig))
    (hpayload : C.decodeBase64 payload = .ok payloadBytes)
    (hraw : C.strictJsonLoads payloadBytes = .ok payloadRaw)
    (hcanonical : canonicalJsonBytes payloadRaw = .ok payloadBytes)
    (hread : VerifiedRoutingCanaryAuthorization.fromPayload S payloadRaw = .ok authorization)
    (htrusted : authorization.operatorKeyId = call.runtime.operatorKeyId)
    (hpem : call.publicKeyFile = .ok pem)
    (hkey : C.publicKeySha256 pem = .ok call.runtime.operatorPublicKeySha256.val)
    (hsig : C.decodeBase64 sig = .ok signatureBytes)
    (hverify : C.verify pem signatureBytes (dssePae authorizationPayloadType payloadBytes) =
      true) : call.signedAuthorization S C = .ok authorization := by
  have htype : isText (.str authorizationPayloadType) authorizationPayloadType = true :=
    isText_str.mpr rfl
  have hkeyid : isText (.str call.runtime.operatorKeyId) call.runtime.operatorKeyId = true :=
    isText_str.mpr rfl
  unfold Call.signedAuthorization
  refine bind_eq_ok.mpr ⟨_, hfile, bind_eq_ok.mpr ⟨_, henvelope, bind_eq_ok.mpr ⟨_, rfl, ?_⟩⟩⟩
  refine check_bind_eq_ok.mpr ⟨⟨by simp, by simp⟩, check_bind_eq_ok.mpr ⟨htype, ?_⟩⟩
  refine bind_eq_ok.mpr ⟨_, rfl, check_bind_eq_ok.mpr ⟨⟨⟨by simp, by simp⟩, hkeyid⟩, ?_⟩⟩
  refine bind_eq_ok.mpr ⟨_, rfl, bind_eq_ok.mpr ⟨_, rfl, ?_⟩⟩
  refine bind_eq_ok.mpr ⟨_, hpayload, bind_eq_ok.mpr ⟨_, hraw, ?_⟩⟩
  refine bind_eq_ok.mpr ⟨_, hcanonical, check_bind_eq_ok.mpr ⟨rfl, ?_⟩⟩
  refine bind_eq_ok.mpr ⟨_, hread, check_bind_eq_ok.mpr ⟨htrusted, ?_⟩⟩
  refine bind_eq_ok.mpr ⟨_, hpem, bind_eq_ok.mpr ⟨_, hkey, check_bind_eq_ok.mpr ⟨rfl, ?_⟩⟩⟩
  exact bind_eq_ok.mpr ⟨_, hsig, check_bind_eq_ok.mpr ⟨hverify, rfl⟩⟩

section Sample

variable (S : Stdlib)

def sampleDigest : Digest := ⟨String.ofList (List.replicate 64 'a'), Eq.refl true⟩

def sampleCell : CanaryCell where
  profile := ⟨"balanced", by decide⟩
  capabilities := {"code"}
  difficulty := .simple
  baselineRoute := .premium
  candidateRoute := .localOnly
  configSha256 := sampleDigest
  signalProviderConfigSha256 := sampleDigest
  runtimePlanSha256 := sampleDigest
  pairedTasks := 1
  candidateSuccessRate := 1
  candidateSuccessCiLower := 0
  identifiers := by decide
  lessPremium := by decide
  paired := Nat.one_pos
  rates := ⟨le_refl _, by decide, le_refl _⟩

def sampleTime (day : Fin 31) : DateTime :=
  ⟨⟨2026, 1, day + 1, 0, 0, 0⟩, by revert day; decide⟩

def sampleManifest : VerifiedRoutingCanaryManifest where
  notBefore := sampleTime 0
  expiresAt := sampleTime 30
  evidenceValidUntil := sampleTime 30
  canaryBasisPoints := 100
  assignmentSaltSha256 := sampleDigest
  lineage := ⟨sampleDigest, sampleDigest, sampleDigest, sampleDigest, sampleDigest,
    sampleDigest, sampleDigest, some sampleDigest, none, none, none, none, none⟩
  enabledCells := [sampleCell]
  manifestSha256 := sampleDigest
  window := by decide
  evidence := le_refl _
  basisPoints := by decide
  cells := ⟨List.cons_ne_nil _ _, List.nodup_singleton _⟩

def sampleUnsigned : VerifiedRoutingCanaryAuthorization where
  activationId := "activation"
  operatorKeyId := "operator"
  manifestSha256 := sampleDigest.val
  bridgeConfigSha256 := sampleDigest.val
  routePolicyDigest := sampleDigest.val
  scorecardDigest := sampleDigest.val
  issuedAt := sampleTime 0
  notBefore := sampleTime 1
  expiresAt := sampleTime 29
  maximumCanaryBasisPoints := 500
  authorizationSha256 := sampleDigest.val
  identifiers := by decide
  digests := ⟨sampleDigest.2, sampleDigest.2, sampleDigest.2, sampleDigest.2, sampleDigest.2⟩
  window := by decide
  cap := by decide

def sampleAuthorization : VerifiedRoutingCanaryAuthorization :=
  let digest := S.sha256 ((jcs sampleUnsigned.contentPayload).flatMap String.utf8EncodeChar)
  { sampleUnsigned with
    authorizationSha256 := digest
    digests := ⟨sampleDigest.2, sampleDigest.2, sampleDigest.2, sampleDigest.2,
      S.sha256_hex _⟩ }

theorem sampleAuthorization_digest :
    S.canonicalSha256 (sampleAuthorization S).contentPayload =
      .ok (sampleAuthorization S).authorizationSha256 :=
  S.canonicalSha256_of_representable rfl

def samplePayload : List UInt8 :=
  (jcs (sampleAuthorization S).payload).flatMap String.utf8EncodeChar

def base64Digit (n : Nat) : Char :=
  if n < 26 then Char.ofNat (65 + n)
  else if n < 52 then Char.ofNat (71 + n)
  else if n < 62 then Char.ofNat (n - 4)
  else if n = 62 then '+'
  else '/'

def b64encode : List Nat → List Char
  | a :: b :: c :: rest =>
    base64Digit (a / 4) :: base64Digit (a % 4 * 16 + b / 16) ::
      base64Digit (b % 16 * 4 + c / 64) :: base64Digit (c % 64) :: b64encode rest
  | [a, b] =>
    [base64Digit (a / 4), base64Digit (a % 4 * 16 + b / 16), base64Digit (b % 16 * 4), '=']
  | [a] => [base64Digit (a / 4), base64Digit (a % 4 * 16), '=', '=']
  | [] => []

def sampleSignature : String := "AAAA"

def sampleEnvelope : Json :=
  envelopeOf (String.ofList (b64encode ((samplePayload S).map UInt8.toNat))) "operator"
    sampleSignature

def sampleCodec : Codec where
  strictJsonLoads data :=
    if data = samplePayload S then .ok (sampleAuthorization S).payload
    else .ok (sampleEnvelope S)
  decodeBase64 text :=
    if text = sampleSignature then .ok [0, 0, 0] else .ok (samplePayload S)
  publicKeySha256 _ := .ok sampleDigest.val
  verify _ _ _ := true

def sampleCall : Call where
  authorizationFile := .ok (32 :: (jcs (sampleEnvelope S)).flatMap String.utf8EncodeChar)
  publicKeyFile := .ok []
  manifest := sampleManifest
  runtime := ⟨"operator", sampleDigest, sampleDigest⟩
  bridgeConfigSha256 := sampleDigest.val
  now := .instant (sampleTime 2) 0
  clock := sampleTime 2
  storage := .healthy

theorem samplePayload_head : ∃ rest, samplePayload S = 123 :: rest := ⟨_, rfl⟩

theorem b64encode_head (a : Nat) (rest : List Nat) :
    ∃ digits, b64encode (a :: rest) = base64Digit (a / 4) :: digits := by
  match rest with
  | [] | [b] | b :: c :: rest => exact ⟨_, rfl⟩

theorem sampleText_ne_signature :
    String.ofList (b64encode ((samplePayload S).map UInt8.toNat)) ≠ sampleSignature := by
  obtain ⟨rest, hpayload⟩ := samplePayload_head S
  obtain ⟨digits, hdigits⟩ := b64encode_head 123 (rest.map UInt8.toNat)
  rw [hpayload]
  intro h
  have hlist := congrArg String.toList h
  rw [String.toList_ofList, List.map_cons] at hlist
  change b64encode (123 :: rest.map UInt8.toNat) = ['A', 'A', 'A', 'A'] at hlist
  rw [hdigits] at hlist
  exact absurd (List.cons.inj hlist).1 (by decide)

theorem sampleCall_signed :
    (sampleCall S).signedAuthorization S (sampleCodec S) = .ok (sampleAuthorization S) := by
  obtain ⟨rest, hpayload⟩ := samplePayload_head S
  have hfile : (32 :: (jcs (sampleEnvelope S)).flatMap String.utf8EncodeChar) ≠
      samplePayload S := by
    rw [hpayload]
    intro h
    exact absurd (List.cons.inj h).1 (by decide)
  have hbytes : canonicalJsonBytes (sampleAuthorization S).payload = .ok (samplePayload S) :=
    if_pos rfl
  have henvelope : (sampleCodec S).strictJsonLoads
      (32 :: (jcs (sampleEnvelope S)).flatMap String.utf8EncodeChar) =
        .ok (sampleEnvelope S) := by
    unfold sampleCodec
    dsimp only
    rw [if_neg hfile]
  have hdecoded : (sampleCodec S).decodeBase64
      (String.ofList (b64encode ((samplePayload S).map UInt8.toNat))) =
        .ok (samplePayload S) := by
    unfold sampleCodec
    dsimp only
    rw [if_neg (sampleText_ne_signature S)]
  have hraw : (sampleCodec S).strictJsonLoads (samplePayload S) =
      .ok (sampleAuthorization S).payload := by
    unfold sampleCodec
    dsimp only
    rw [if_pos rfl]
  have hsig : (sampleCodec S).decodeBase64 sampleSignature = .ok [0, 0, 0] := by
    unfold sampleCodec
    dsimp only
    rw [if_pos rfl]
  have hread := VerifiedRoutingCanaryAuthorization.fromPayload_payload S
    (sampleAuthorization_digest S)
  have hpem : (sampleCall S).publicKeyFile = .ok [] := rfl
  exact signedAuthorization_of_envelope rfl henvelope hdecoded hraw hbytes hread rfl hpem rfl
    hsig rfl

theorem sampleCall_succeeds :
    (loadAndVerify S (sampleCodec S) (sampleCall S) none).1 =
      .ok ⟨sampleAuthorization S, sampleTime 2, sampleDigest⟩ := by
  have hbindings : (sampleCall S).checkBindings (sampleAuthorization S) (sampleTime 2) =
      .ok () := by
    have hbridge : requireSha256 (sampleCall S).bridgeConfigSha256 "bridge_config_sha256" =
        .ok sampleDigest.val := requireSha256_of_isSha256 sampleDigest.2
    have hwindow : (sampleTime 1).ordinal ≤ (sampleTime 2).ordinal ∧
        (sampleTime 2).ordinal < (sampleTime 29).ordinal := by decide
    have hmanifest : (sampleTime 0).ordinal ≤ (sampleTime 2).ordinal ∧
        (sampleTime 2).ordinal < (sampleTime 30).ordinal := by decide
    have hcap : (100 : Nat) ≤ 500 ∧ (sampleTime 0).ordinal ≤ (sampleTime 1).ordinal ∧
        (sampleTime 29).ordinal ≤ (sampleTime 30).ordinal := by decide
    unfold Call.checkBindings
    refine check_bind_eq_ok.mpr ⟨hwindow, check_bind_eq_ok.mpr ⟨hmanifest, ?_⟩⟩
    refine check_bind_eq_ok.mpr ⟨Option.some_ne_none _, check_bind_eq_ok.mpr ⟨rfl, ?_⟩⟩
    exact bind_eq_ok.mpr ⟨_, hbridge, check_of ⟨rfl, rfl, rfl, hcap⟩⟩
  have hverified : ((do
      let authorization ← (sampleCall S).signedAuthorization S (sampleCodec S)
      let current ← (sampleCall S).observedAt S
      (sampleCall S).checkBindings authorization current
      pure (authorization, current)) :
        Except ContractError (VerifiedRoutingCanaryAuthorization × DateTime)) =
      .ok (sampleAuthorization S, sampleTime 2) :=
    bind_eq_ok.mpr ⟨_, sampleCall_signed S, bind_eq_ok.mpr ⟨_, rfl,
      bind_eq_ok.mpr ⟨_, hbindings, rfl⟩⟩⟩
  unfold loadAndVerify
  rw [hverified]
  rfl

/-- The authorization caps at five in a hundred what the manifest keeps at one. -/
theorem cap_above_manifest :
    ¬ ∀ (C : Codec) (file : Option Json) (call : Call) (authority : VerifiedCanaryAuthority),
      (loadAndVerify Stdlib.cpython C call file).1 = .ok authority →
      authority.authorization.maximumCanaryBasisPoints ≤ call.manifest.canaryBasisPoints := by
  intro h
  generalize Stdlib.cpython = S at h
  have hcap : (500 : Nat) ≤ 100 :=
    h (sampleCodec S) none (sampleCall S) _ (sampleCall_succeeds S)
  exact absurd hcap (by decide)

end Sample

theorem sampleCall_monotone :
    (loadAndVerify Stdlib.cpython (sampleCodec Stdlib.cpython) (sampleCall Stdlib.cpython)
      none).1 = .ok ⟨sampleAuthorization Stdlib.cpython, sampleTime 2, sampleDigest⟩ ∧
    sampleManifest.canaryBasisPoints ≤
      (sampleAuthorization Stdlib.cpython).maximumCanaryBasisPoints := by
  generalize Stdlib.cpython = S
  have h := activation_monotone S (sampleCodec S) none [] (sampleCall S) _
    (sampleCall_succeeds S)
  exact ⟨sampleCall_succeeds S, h.2.1.2.2⟩

end LocalMoe.Canary
