/-
  When the runtime reads the manifest back.
-/
import LocalMoe.Promotion.Document

namespace LocalMoe.Promotion

open Foundation Contracts Canary Paired

variable {F : Floats}

/-! ## Values read back -/

theorem require_eq_ok {α : Type} {value : Option α} {message : String} {a : α} :
    require value message = .ok a ↔ value = some a := by
  cases value with
  | none => exact ⟨fun h => (by cases h), fun h => (by cases h)⟩
  | some b => exact ⟨fun h => congrArg some (Except.ok.inj h), fun h => congrArg _ (Option.some.inj h)⟩

theorem asTexts_map (texts : List String) :
    (Value.list (texts.map .text) : Value F).asTexts = some texts := by
  change some ((texts.map Value.text).map (Value.asText (F := F))) = some texts
  rw [List.map_map]
  exact congrArg some (List.map_id _)

theorem asNumber_float {x : F.Float} {number : F.Float × ℚ} :
    (Value.float x : Value F).asNumber = some number ↔ number.1 = x ∧ F.value x = number.2 := by
  obtain ⟨y, q⟩ := number
  unfold Value.asNumber
  cases hvalue : F.value x with
  | top =>
    simp only [hvalue]
    exact ⟨fun h => (by cases h), fun h => absurd h.2 WithTop.top_ne_coe⟩
  | coe q' =>
    simp only [hvalue, Option.some.injEq, Prod.mk.injEq, WithTop.coe_eq_coe]
    exact ⟨fun h => ⟨h.1.symm, h.2⟩, fun h => ⟨h.1.symm, h.2⟩⟩

theorem requireRate_float {x : F.Float} {label : String} {number : F.Float × ℚ} :
    requireRate (.float x : Value F) label = .ok number ↔
      number.1 = x ∧ F.value x = number.2 ∧ 0 ≤ number.2 ∧ number.2 ≤ 1 := by
  constructor
  · intro h
    obtain ⟨_, hnumber, h⟩ := bind_eq_ok.mp h
    obtain ⟨hlower, h⟩ := check_bind_eq_ok.mp h
    obtain ⟨hupper, h⟩ := check_bind_eq_ok.mp h
    cases h
    obtain ⟨hx, hvalue⟩ := asNumber_float.mp (require_eq_ok.mp hnumber)
    exact ⟨hx, hvalue, hlower, hupper⟩
  · rintro ⟨hx, hvalue, hlower, hupper⟩
    refine bind_eq_ok.mpr ⟨number, require_eq_ok.mpr (asNumber_float.mpr ⟨hx, hvalue⟩), ?_⟩
    exact check_bind_eq_ok.mpr ⟨hlower, check_bind_eq_ok.mpr ⟨hupper, rfl⟩⟩

theorem mapM_eq_ok {α β γ : Type} {f : β → Except ContractError γ} {p : α → β} {g : α → γ}
    {l : List α} (h : ∀ x ∈ l, f (p x) = .ok (g x)) : (l.map p).mapM f = .ok (l.map g) := by
  induction l with
  | nil => rfl
  | cons x rest ih =>
    rw [List.map_cons, List.mapM_cons]
    refine bind_eq_ok.mpr ⟨g x, h x List.mem_cons_self, ?_⟩
    exact bind_eq_ok.mpr ⟨_, ih fun y hy => h y (List.mem_cons_of_mem _ hy), rfl⟩

theorem ok_of_mapM {α β γ : Type} {f : β → Except ContractError γ} {p : α → β} {l : List α}
    {results : List γ} (h : (l.map p).mapM f = .ok results) :
    ∀ x ∈ l, ∃ result, f (p x) = .ok result := by
  induction l generalizing results with
  | nil => exact fun _ hx => by cases hx
  | cons first rest ih =>
    rw [List.map_cons, List.mapM_cons] at h
    obtain ⟨result, hfirst, h⟩ := bind_eq_ok.mp h
    obtain ⟨others, hrest, _⟩ := bind_eq_ok.mp h
    intro x hx
    rcases List.mem_cons.mp hx with rfl | hx
    · exact ⟨result, hfirst⟩
    · exact ih hrest x hx

/-! ## Cells -/

/-- What the texts of a cell are, as the constructor of a case leaves them. -/
structure CellKey.Formed (k : CellKey) : Prop where
  profile : isSafeId k.profile = true
  capabilities : ∀ c ∈ k.capabilities, isSafeId c = true
  distinct : k.capabilities.Nodup
  sorted : k.capabilities.insertionSort (· ≤ ·) = k.capabilities
  lessPremium : k.candidateRoute.rank < k.baselineRoute.rank
  digests : isSha256 k.configSha256 = true ∧ isSha256 k.signalProviderConfigSha256 = true ∧
    isSha256 k.runtimePlanSha256 = true

/-- A lower bound and a rate as the reader wants them. -/
def RatesInOrder (F : Floats) (lower rate : F.Float) : Prop :=
  0 ≤ F.value lower ∧ F.value lower ≤ F.value rate ∧ F.value rate ≤ 1

/-- The cell that the reader keeps. -/
def CellReport.read (c : CellReport F) : ReadCell F :=
  ⟨c.key, c.pairedTasks, c.candidateSuccessRate, c.candidateSuccessCiLower⟩

theorem exists_of_ratesInOrder {lower rate : F.Float} (h : RatesInOrder F lower rate) :
    ∃ l r : ℚ, F.value lower = l ∧ F.value rate = r ∧ 0 ≤ l ∧ l ≤ r ∧ r ≤ 1 := by
  obtain ⟨hlower, horder, hupper⟩ := h
  have hrate : F.value rate ≠ ⊤ := ne_top_of_le_ne_top (WithTop.coe_ne_top (a := 1)) hupper
  have hbound : F.value lower ≠ ⊤ := ne_top_of_le_ne_top hrate horder
  obtain ⟨r, hr⟩ := WithTop.ne_top_iff_exists.mp hrate
  obtain ⟨l, hl⟩ := WithTop.ne_top_iff_exists.mp hbound
  rw [← hl, ← hr] at horder
  rw [← hl] at hlower
  rw [← hr] at hupper
  exact ⟨l, r, hl.symm, hr.symm, WithTop.coe_le_coe.mp hlower, WithTop.coe_le_coe.mp horder,
    WithTop.coe_le_coe.mp hupper⟩

variable {fields : List (String × Value F)}

theorem exactFields_cell (c : CellReport F) (h : c.payload.fields = some fields) :
    requireExactFields fields cellFields "canary cell" "Canary cell is incomplete." = .ok () := by
  cases h
  simp [requireExactFields, bind_eq_ok, cellFields]

theorem readCell_payload_eq_ok {c : CellReport F} (hkey : c.key.Formed)
    (hpaired : 0 < c.pairedTasks) {read : ReadCell F} : readCell c.payload = .ok read ↔
      c.read = read ∧ RatesInOrder F c.candidateSuccessCiLower c.candidateSuccessRate := by
  have hfields := exactFields_cell c rfl
  have hprofile : requireSafeId c.key.profile "profile" = .ok c.key.profile :=
    requireSafeId_of_isSafeId hkey.profile
  have hcapabilities : requireSafeIds "capabilities" c.key.capabilities =
      .ok c.key.capabilities := requireSafeIds_of_isSafeId hkey.capabilities
  obtain ⟨hconfigSha, hsignalsSha, hruntimeSha⟩ := hkey.digests
  have hread : (⟨⟨c.key.profile, c.key.capabilities.insertionSort (· ≤ ·), c.key.difficulty,
      c.key.baselineRoute, c.key.candidateRoute, c.key.configSha256,
      c.key.signalProviderConfigSha256, c.key.runtimePlanSha256⟩, c.pairedTasks,
      c.candidateSuccessRate, c.candidateSuccessCiLower⟩ : ReadCell F) = c.read := by
    rw [hkey.sorted]
    rfl
  constructor
  · intro h
    obtain ⟨_, hobject, h⟩ := bind_eq_ok.mp h
    cases hobject
    obtain ⟨_, _, h⟩ := bind_eq_ok.mp h
    obtain ⟨profile, hprofile', h⟩ := bind_eq_ok.mp h
    obtain ⟨texts, htexts, h⟩ := bind_eq_ok.mp h
    obtain ⟨capabilities, hcapabilities', h⟩ := bind_eq_ok.mp h
    obtain ⟨_, h⟩ := check_bind_eq_ok.mp h
    obtain ⟨difficulty, hdifficulty, h⟩ := bind_eq_ok.mp h
    obtain ⟨baseline, hbaseline, h⟩ := bind_eq_ok.mp h
    obtain ⟨candidate, hcandidate, h⟩ := bind_eq_ok.mp h
    obtain ⟨_, h⟩ := check_bind_eq_ok.mp h
    obtain ⟨config, hconfig, h⟩ := bind_eq_ok.mp h
    obtain ⟨signals, hsignals, h⟩ := bind_eq_ok.mp h
    obtain ⟨runtime, hruntime, h⟩ := bind_eq_ok.mp h
    obtain ⟨paired, hpaired', h⟩ := bind_eq_ok.mp h
    obtain ⟨_, h⟩ := check_bind_eq_ok.mp h
    obtain ⟨success, hsuccess, h⟩ := bind_eq_ok.mp h
    obtain ⟨lower, hlower, h⟩ := bind_eq_ok.mp h
    obtain ⟨horder, h⟩ := check_bind_eq_ok.mp h
    cases h
    cases hprofile.symm.trans hprofile'
    cases (asTexts_map c.key.capabilities).symm.trans (require_eq_ok.mp htexts)
    cases hcapabilities.symm.trans hcapabilities'
    cases (Difficulty.ofName_name c.key.difficulty).symm.trans (require_eq_ok.mp hdifficulty)
    cases (RoutePlan.ofName_name c.key.baselineRoute).symm.trans (require_eq_ok.mp hbaseline)
    cases (RoutePlan.ofName_name c.key.candidateRoute).symm.trans (require_eq_ok.mp hcandidate)
    cases (requireSha256_of_isSha256 hconfigSha).symm.trans hconfig
    cases (requireSha256_of_isSha256 hsignalsSha).symm.trans hsignals
    cases (requireSha256_of_isSha256 hruntimeSha).symm.trans hruntime
    cases require_eq_ok.mp hpaired'
    obtain ⟨hrate, hrateValue, _, hupper⟩ := requireRate_float.mp hsuccess
    obtain ⟨hbound, hboundValue, hpositive, _⟩ := requireRate_float.mp hlower
    rw [hrate, hbound]
    refine ⟨hread.symm, ?_⟩
    unfold RatesInOrder
    rw [hrateValue, hboundValue]
    exact ⟨WithTop.coe_le_coe.mpr hpositive, WithTop.coe_le_coe.mpr horder,
      WithTop.coe_le_coe.mpr hupper⟩
  · rintro ⟨rfl, hrates⟩
    obtain ⟨l, r, hl, hr, hpositive, horder, hupper⟩ := exists_of_ratesInOrder hrates
    refine bind_eq_ok.mpr ⟨_, rfl, bind_eq_ok.mpr ⟨_, hfields, bind_eq_ok.mpr ⟨_, hprofile, ?_⟩⟩⟩
    refine bind_eq_ok.mpr ⟨_, require_eq_ok.mpr (asTexts_map _), ?_⟩
    refine bind_eq_ok.mpr ⟨_, hcapabilities, check_bind_eq_ok.mpr ⟨hkey.distinct, ?_⟩⟩
    refine bind_eq_ok.mpr ⟨_, require_eq_ok.mpr (Difficulty.ofName_name _), ?_⟩
    refine bind_eq_ok.mpr ⟨_, require_eq_ok.mpr (RoutePlan.ofName_name _), ?_⟩
    refine bind_eq_ok.mpr ⟨_, require_eq_ok.mpr (RoutePlan.ofName_name _), ?_⟩
    refine check_bind_eq_ok.mpr ⟨hkey.lessPremium, ?_⟩
    refine bind_eq_ok.mpr ⟨_, requireSha256_of_isSha256 hconfigSha, ?_⟩
    refine bind_eq_ok.mpr ⟨_, requireSha256_of_isSha256 hsignalsSha, ?_⟩
    refine bind_eq_ok.mpr ⟨_, requireSha256_of_isSha256 hruntimeSha, ?_⟩
    refine bind_eq_ok.mpr ⟨c.pairedTasks, rfl, check_bind_eq_ok.mpr ⟨hpaired, ?_⟩⟩
    refine bind_eq_ok.mpr ⟨(c.candidateSuccessRate, r),
      requireRate_float.mpr ⟨rfl, hr, hpositive.trans horder, hupper⟩, ?_⟩
    refine bind_eq_ok.mpr ⟨(c.candidateSuccessCiLower, l),
      requireRate_float.mpr ⟨rfl, hl, hpositive, horder.trans hupper⟩, ?_⟩
    exact check_bind_eq_ok.mpr ⟨horder, congrArg Except.ok hread⟩

/-! ## The manifest -/

/-- What the evaluation makes of the texts of its arguments. -/
structure Manifest.Formed (m : Manifest F) : Prop where
  times : wholeSeconds m.notBefore = m.notBefore ∧ wholeSeconds m.expiresAt = m.expiresAt ∧
    wholeSeconds m.evidenceValidUntil = m.evidenceValidUntil
  evidence : m.expiresAt ≤ m.evidenceValidUntil
  basisPoints : 0 < m.canaryBasisPoints ∧ m.canaryBasisPoints ≤ maxCanaryBasisPoints
  salt : isSha256 m.assignmentSaltSha256 = true
  digests : ∀ d ∈ [m.planSha256, m.gatePolicyDigest, m.routePolicyDigest, m.scorecardDigest,
    m.trainingSourceDigest, m.evaluatorSha256, m.pairedProofSetSha256], isSha256 d = true
  optional : ∀ o ∈ [m.pricingSha256, m.attestationPolicySha256, m.executionHarnessSha256,
    m.runnerSourceSha256, m.pairedAttestationVerifierSha256], ∃ d, o = some d ∧ isSha256 d = true
  nonempty : m.enabledCells ≠ []
  distinct : (m.enabledCells.map CellReport.key).Nodup
  cells : ∀ c ∈ m.enabledCells, c.key.Formed ∧ 0 < c.pairedTasks

/-- The manifest that the reader keeps. -/
def Manifest.read (m : Manifest F) (d : Documents F) : ReadManifest F where
  notBefore := m.notBefore
  expiresAt := m.expiresAt
  evidenceValidUntil := m.evidenceValidUntil
  canaryBasisPoints := m.canaryBasisPoints
  assignmentSaltSha256 := m.assignmentSaltSha256
  lineage := m.lineageFields d
  enabledCells := m.enabledCells.map CellReport.read
  manifestSha256 := d.sha256Json (.object (m.contentFields d))

variable (m : Manifest F) (d : Documents F)

theorem Manifest.read_contentFields : (m.read d).contentFields = m.contentFields d := by
  unfold ReadManifest.contentFields Manifest.contentFields Manifest.read
  rw [List.map_map]
  rfl

theorem Manifest.read_payload : (m.read d).payload = m.payload d := by
  unfold ReadManifest.payload Manifest.payload
  rw [m.read_contentFields d]
  rfl

theorem Manifest.Formed.isSha256_lineage {m : Manifest F} (h : m.Formed) (d : Documents F) :
    ∀ f ∈ m.lineageFields d, isSha256 f.2.asText = true := by
  obtain ⟨hplan, hgate, hroute, hscorecard, htraining, hevaluator, hproofs⟩ :
      isSha256 m.planSha256 = true ∧ isSha256 m.gatePolicyDigest = true ∧
        isSha256 m.routePolicyDigest = true ∧ isSha256 m.scorecardDigest = true ∧
        isSha256 m.trainingSourceDigest = true ∧ isSha256 m.evaluatorSha256 = true ∧
        isSha256 m.pairedProofSetSha256 = true := by
    simpa using h.digests
  have hoptional : ∀ o ∈ [m.pricingSha256, m.attestationPolicySha256, m.executionHarnessSha256,
      m.runnerSourceSha256, m.pairedAttestationVerifierSha256],
      isSha256 (Value.optional o : Value F).asText = true := by
    intro o ho
    obtain ⟨v, rfl, hv⟩ := h.optional o ho
    exact hv
  intro f hf
  simp only [Manifest.lineageFields, List.mem_cons, List.not_mem_nil, or_false] at hf
  rcases hf with rfl | rfl | rfl | rfl | rfl | rfl | rfl | rfl | rfl | rfl | rfl | rfl | rfl
  · exact hoptional _ (by simp)
  · exact hevaluator
  · exact hoptional _ (by simp)
  · exact hgate
  · exact hoptional _ (by simp)
  · exact hproofs
  · exact hplan
  · exact hoptional _ (by simp)
  · exact d.isSha256_reportSha256 _
  · exact hroute
  · exact hoptional _ (by simp)
  · exact hscorecard
  · exact htraining

theorem Manifest.Formed.make_eq_ok {m : Manifest F} (h : m.Formed) (d : Documents F)
    (hfields : (m.payload d).fields = some fields) {read : ReadManifest F} :
    ReadManifest.make fields (m.lineageFields d) (m.enabledCells.map CellReport.read) = .ok read ↔
      m.read d = read ∧ m.notBefore < m.expiresAt := by
  obtain ⟨hnotBefore, hexpiresAt, hevidence⟩ := h.times
  cases hfields
  have hkeys : ((m.enabledCells.map CellReport.read).map ReadCell.key).Nodup := by
    rw [List.map_map]
    exact h.distinct
  have hcells : m.enabledCells.map CellReport.read ≠ [] := by
    rw [ne_eq, List.map_eq_nil_iff]
    exact h.nonempty
  constructor
  · intro hmake
    obtain ⟨_, hstart, hmake⟩ := bind_eq_ok.mp hmake
    obtain ⟨_, hend, hmake⟩ := bind_eq_ok.mp hmake
    obtain ⟨_, huntil, hmake⟩ := bind_eq_ok.mp hmake
    cases hstart
    cases hend
    cases huntil
    rw [hnotBefore, hexpiresAt, hevidence] at hmake
    obtain ⟨hwindow, hmake⟩ := check_bind_eq_ok.mp hmake
    obtain ⟨_, hmake⟩ := check_bind_eq_ok.mp hmake
    obtain ⟨_, hpoints, hmake⟩ := bind_eq_ok.mp hmake
    cases hpoints
    obtain ⟨_, hmake⟩ := check_bind_eq_ok.mp hmake
    obtain ⟨_, hsalt, hmake⟩ := bind_eq_ok.mp hmake
    cases (requireSha256_of_isSha256 h.salt).symm.trans hsalt
    obtain ⟨_, hmake⟩ := check_bind_eq_ok.mp hmake
    obtain ⟨_, hmake⟩ := check_bind_eq_ok.mp hmake
    obtain ⟨_, hmake⟩ := check_bind_eq_ok.mp hmake
    obtain ⟨_, hmake⟩ := check_bind_eq_ok.mp hmake
    obtain ⟨_, hmake⟩ := check_bind_eq_ok.mp hmake
    obtain ⟨_, hdigest, hmake⟩ := bind_eq_ok.mp hmake
    cases (requireSha256_of_isSha256 (d.isSha256_sha256Json _)).symm.trans hdigest
    exact ⟨Except.ok.inj hmake, hwindow⟩
  · rintro ⟨rfl, hwindow⟩
    refine bind_eq_ok.mpr ⟨m.notBefore, require_eq_ok.mpr (congrArg some hnotBefore), ?_⟩
    refine bind_eq_ok.mpr ⟨m.expiresAt, require_eq_ok.mpr (congrArg some hexpiresAt), ?_⟩
    refine bind_eq_ok.mpr ⟨m.evidenceValidUntil, require_eq_ok.mpr (congrArg some hevidence), ?_⟩
    refine check_bind_eq_ok.mpr ⟨hwindow, check_bind_eq_ok.mpr ⟨h.evidence, ?_⟩⟩
    refine bind_eq_ok.mpr ⟨m.canaryBasisPoints, rfl, check_bind_eq_ok.mpr ⟨h.basisPoints, ?_⟩⟩
    refine bind_eq_ok.mpr ⟨_, requireSha256_of_isSha256 h.salt, ?_⟩
    refine check_bind_eq_ok.mpr ⟨?_, check_bind_eq_ok.mpr ⟨?_, ?_⟩⟩
    · simp [Manifest.lineageFields, lineageAllowedFields, lineageRequiredFields]
    · simp [Manifest.lineageFields, lineageRequiredFields]
    refine check_bind_eq_ok.mpr ⟨h.isSha256_lineage d, check_bind_eq_ok.mpr ⟨hcells, ?_⟩⟩
    refine check_bind_eq_ok.mpr ⟨hkeys, ?_⟩
    exact bind_eq_ok.mpr ⟨_, requireSha256_of_isSha256 (d.isSha256_sha256Json _), rfl⟩

theorem exactFields_payload : requireExactFields (m.contentFields d ++
      [("manifest_sha256", .text (d.sha256Json (.object (m.contentFields d))))]) manifestFields
      "canary manifest" "Canary manifest is incomplete." = .ok () := by
  refine check_bind_eq_ok.mpr ⟨?_, check_eq_ok.mpr ?_⟩
  · simp [Manifest.contentFields, contentFields, manifestFields]
  · simp [Manifest.contentFields, contentFields, manifestFields]

theorem exactFields_invariants : requireExactFields
    (invariantFields.map fun name => (name, (.bool true : Value F))) invariantFields
    "canary invariants" "Canary manifest invariants are not preserved." = .ok () := by
  refine check_bind_eq_ok.mpr ⟨?_, check_eq_ok.mpr ?_⟩
  · simp [invariantFields]
  · simp [invariantFields]

theorem Manifest.Formed.fromPayload_eq_ok {m : Manifest F} (h : m.Formed) (d : Documents F)
    {read : ReadManifest F} : ReadManifest.fromPayload d (m.payload d) = .ok read ↔
      m.read d = read ∧ m.notBefore < m.expiresAt ∧
      ∀ c ∈ m.enabledCells, RatesInOrder F c.candidateSuccessCiLower c.candidateSuccessRate := by
  have hdigest : d.sha256Json (.object (m.read d).contentFields) = (m.read d).manifestSha256 :=
    congrArg (fun fields => d.sha256Json (.object fields)) (m.read_contentFields d)
  constructor
  · intro hread
    obtain ⟨_, hfields, hread⟩ := bind_eq_ok.mp hread
    cases hfields
    obtain ⟨_, _, hread⟩ := bind_eq_ok.mp hread
    obtain ⟨_, hread⟩ := check_bind_eq_ok.mp hread
    obtain ⟨_, _, hread⟩ := bind_eq_ok.mp hread
    obtain ⟨_, _, hread⟩ := bind_eq_ok.mp hread
    obtain ⟨_, hread⟩ := check_bind_eq_ok.mp hread
    obtain ⟨_, hitems, hread⟩ := bind_eq_ok.mp hread
    cases hitems
    obtain ⟨cells, hcells, hread⟩ := bind_eq_ok.mp hread
    obtain ⟨_, hlineage, hread⟩ := bind_eq_ok.mp hread
    cases hlineage
    obtain ⟨made, hmake, hread⟩ := bind_eq_ok.mp hread
    obtain ⟨_, hread⟩ := check_bind_eq_ok.mp hread
    cases hread
    have hrates : ∀ c ∈ m.enabledCells, readCell c.payload = .ok c.read ∧
          RatesInOrder F c.candidateSuccessCiLower c.candidateSuccessRate := by
      intro c hc
      obtain ⟨result, hresult⟩ := ok_of_mapM hcells c hc
      obtain ⟨rfl, hrates⟩ := (readCell_payload_eq_ok (h.cells c hc).1 (h.cells c hc).2).mp hresult
      exact ⟨hresult, hrates⟩
    cases (mapM_eq_ok fun c hc => (hrates c hc).1).symm.trans hcells
    obtain ⟨hmade, hwindow⟩ := (h.make_eq_ok d rfl).mp hmake
    exact ⟨hmade, hwindow, fun c hc => (hrates c hc).2⟩
  · rintro ⟨rfl, hwindow, hrates⟩
    have hcells : (m.enabledCells.map CellReport.payload).mapM readCell =
        .ok (m.enabledCells.map CellReport.read) := mapM_eq_ok fun c hc =>
      (readCell_payload_eq_ok (h.cells c hc).1 (h.cells c hc).2).mpr ⟨rfl, hrates c hc⟩
    refine bind_eq_ok.mpr ⟨_, rfl, bind_eq_ok.mpr ⟨_, exactFields_payload m d, ?_⟩⟩
    refine check_bind_eq_ok.mpr ⟨⟨rfl, rfl, rfl, rfl, rfl, rfl, trivial⟩, ?_⟩
    refine bind_eq_ok.mpr ⟨_, rfl, bind_eq_ok.mpr ⟨_, exactFields_invariants, ?_⟩⟩
    refine check_bind_eq_ok.mpr ⟨?_, ?_⟩
    · intro name hname
      simp only [invariantFields, List.mem_cons, List.not_mem_nil, or_false] at hname
      rcases hname with rfl | rfl | rfl | rfl <;> trivial
    refine bind_eq_ok.mpr ⟨_, rfl, bind_eq_ok.mpr ⟨_, hcells, bind_eq_ok.mpr ⟨_, rfl, ?_⟩⟩⟩
    refine bind_eq_ok.mpr ⟨_, (h.make_eq_ok d rfl).mpr ⟨rfl, hwindow⟩, ?_⟩
    exact check_bind_eq_ok.mpr ⟨hdigest, rfl⟩

/-! ## The conditions on the arguments -/

/-- What the constructors of the arguments have checked, and that a digest is one. -/
structure Constructed (environment : Environment F) (a : Arguments F) : Prop where
  digests : ∀ d ∈ [a.plan.planSha256, a.plan.assignmentSaltSha256, a.gatePolicy.digest,
    a.routePolicy.digest, a.scorecard.digest, a.scorecard.sourceDigest,
    environment.evaluatorSha256], isSha256 d = true
  optional : ∀ o ∈ [a.plan.pricingSha256, a.plan.attestationPolicySha256,
    a.plan.executionHarnessSha256, a.plan.runnerSourceSha256], ∀ d ∈ o, isSha256 d = true
  pricing : ∀ contract ∈ a.plan.pricingContract,
    a.plan.pricingSha256 = some contract.pricingSha256
  verifier : ∀ v ∈ a.verifier, isSha256 v.configurationSha256 = true
  proofSet : ∀ proofs, isSha256 (environment.proofSetSha256 proofs) = true
  cells : ∀ c ∈ a.plan.cases, c.cellKey.Formed
  expiry : wholeSeconds a.scorecard.expiresAt = a.scorecard.expiresAt

namespace Arguments

variable (a : Arguments F)

def signedTime (r : OutcomeRecord F) : Option Instant :=
  match a.verifier, a.plan.pricingContract with
  | some verifier, some pricing =>
    match verifier.verifyRecord r pricing with
    | .ok proof => some (F.fromTimestamp proof.candidateCreatedAt)
    | .error _ => none
  | _, _ => none

/-- Every record of the holdout stays valid for a second after the evaluation. -/
def OutlivesEvaluation : Prop :=
  ∀ r ∈ a.holdout, ∀ t ∈ a.signedTime r,
    a.evaluatedAt + seconds 1 ≤ t + seconds a.gatePolicy.maximumHoldoutAgeSeconds

def samples (key : CellKey) : Nat :=
  a.plan.cases.countP fun c => decide (c.cellKey = key)

def CandidatePassed (c : PromotionCase) : Prop :=
  ∃ r ∈ a.holdout, r.taskFingerprint = c.taskFingerprint ∧ r.plannedRoute = c.candidateRoute ∧
    r.passed = true

instance (c : PromotionCase) : Decidable (a.CandidatePassed c) :=
  inferInstanceAs (Decidable (∃ r ∈ a.holdout, _ ∧ _ ∧ _))

/-- The cases of a cell whose candidate has passed. -/
def successes (key : CellKey) : Nat :=
  a.plan.cases.countP fun c => decide (c.cellKey = key) && decide (a.CandidatePassed c)

/-- The rounded lower bound of every cell is at most its rounded rate. -/
def BoundsInOrder : Prop :=
  ∀ c ∈ a.plan.cases, RatesInOrder F
    (F.round6 (wilsonInterval F (a.successes c.cellKey) (a.samples c.cellKey)
      a.gatePolicy.confidenceLevel).1)
    (F.round6 (F.div (F.ofNat (a.successes c.cellKey)) (F.ofNat (a.samples c.cellKey))))

end Arguments

/-! ## The window -/

theorem wholeSeconds_wholeSeconds (t : Instant) :
    wholeSeconds (wholeSeconds t) = wholeSeconds t := by
  have hwhole : ∀ x : Int, x - x % 1000000 - (x - x % 1000000) % 1000000 = x - x % 1000000 := by
    intro x
    omega
  exact hwhole t

variable {t : Instant}

theorem wholeSeconds_mono {u : Instant} (h : t ≤ u) : wholeSeconds t ≤ wholeSeconds u := by
  have hmono : ∀ x y : Int, x ≤ y → x - x % 1000000 ≤ y - y % 1000000 := by
    intro x y hxy
    omega
  exact hmono t u h

theorem lt_wholeSeconds {u : Instant} (ht : wholeSeconds t = t) :
    t < wholeSeconds u ↔ t + seconds 1 ≤ u := by
  have hbefore : ∀ x y : Int, x - x % 1000000 = x →
      (x < y - y % 1000000 ↔ x + (1 : Nat) * 1000000 ≤ y) := by
    intro x y hx
    omega
  exact hbefore t u ht

variable {s : Subject F}

theorem Subject.le_validUntil {records : List (OutcomeRecord F)} {v : Instant}
    (h : s.holdoutValidUntil records = some v) : t ≤ v ↔ ∀ r ∈ records,
      t ≤ s.candidateTime r + seconds s.gatePolicy.maximumHoldoutAgeSeconds := by
  constructor
  · exact fun ht r hr => ht.trans (Subject.validUntil_le h r hr)
  · induction records generalizing v with
    | nil => cases h
    | cons first rest ih =>
      intro hall
      have hfirst := hall first List.mem_cons_self
      unfold Subject.holdoutValidUntil at h
      split at h
      · cases h
        exact hfirst
      · next earliest hrest =>
        cases h
        exact le_min hfirst (ih hrest fun r hr => hall r (List.mem_cons_of_mem _ hr))

theorem Subject.window (s : Subject F) (validUntil : Instant)
    (hexpiry : wholeSeconds s.scorecard.expiresAt = s.scorecard.expiresAt)
    (htiming : s.timingOk = true) :
    (s.manifest validUntil).notBefore < (s.manifest validUntil).expiresAt ↔
      s.evaluatedAt + seconds 1 ≤ validUntil := by
  have hscorecard : s.evaluatedAt + seconds 1 ≤ s.scorecard.expiresAt := by
    rw [← lt_wholeSeconds s.wholeSecond, hexpiry]
    exact (of_decide_eq_true htiming).2
  have hrequested : s.evaluatedAt + seconds 1 ≤ s.evaluatedAt + seconds s.plan.manifestTtlSeconds := by
    apply Int.add_le_add_left
    exact Int.mul_le_mul_of_nonneg_right (Int.ofNat_le.mpr s.plan.positive.2) (by decide)
  have hwindow : (s.manifest validUntil).notBefore < (s.manifest validUntil).expiresAt ↔
      s.evaluatedAt + seconds 1 ≤
        min (min (s.evaluatedAt + seconds s.plan.manifestTtlSeconds) s.scorecard.expiresAt)
          validUntil := lt_wholeSeconds s.wholeSecond
  rw [hwindow, le_min_iff, le_min_iff]
  exact ⟨fun h => h.2, fun h => ⟨⟨hrequested, hscorecard⟩, h⟩⟩

/-! ## The cells of a clean subject -/

theorem Subject.Clean.mem_cellKeys (h : s.Clean) {key : CellKey} :
    key ∈ s.cellKeys ↔ ∃ c ∈ s.plan.cases, c.cellKey = key := by
  unfold Subject.cellKeys
  rw [List.mem_insertionSort, List.mem_dedup, ← h.pairing.1]
  simp only [List.mem_map, exists_exists_and_eq_and]

theorem Subject.nodup_cellKeys (s : Subject F) : s.cellKeys.Nodup :=
  (List.perm_insertionSort _ _).nodup_iff.mpr (List.nodup_dedup _)

theorem Subject.Clean.length_cellPairs (h : s.Clean) (key : CellKey) :
    (s.cellPairs key).length = s.toArguments.samples key := by
  unfold Subject.cellPairs Arguments.samples
  rw [← h.pairing.1, List.countP_map, ← List.countP_eq_length_filter]
  rfl

theorem Judged.candidate_passed {S : Stdlib} {a : Arguments F} {holdout : List (OutcomeRecord F)}
    {p : Pair F} (h : Judged S a.plan holdout p) (hholdout : holdout.Perm a.holdout) :
    p.candidate.passed = true ↔ a.CandidatePassed p.case := by
  constructor
  · intro hpassed
    obtain ⟨hmem, htask⟩ := List.mem_filter.mp (h.records.mem_iff.mpr
      (List.mem_cons_of_mem _ List.mem_cons_self : p.candidate ∈ [p.baseline, p.candidate]))
    exact ⟨p.candidate, hholdout.mem_iff.mp hmem, of_decide_eq_true htask, h.routes.2, hpassed⟩
  · rintro ⟨r, hr, htask, hroute, hpassed⟩
    have hmem := h.records.mem_iff.mp
      (List.mem_filter.mpr ⟨hholdout.mem_iff.mpr hr, decide_eq_true htask⟩)
    rcases List.mem_cons.mp hmem with rfl | hmem
    · exact absurd (h.routes.1.symm.trans hroute) p.case.baseline_ne_candidate
    · rw [← List.mem_singleton.mp hmem]
      exact hpassed

theorem Subject.Clean.candidate_successes (h : s.Clean) (hholdout : s.holdoutSet.Perm s.holdout)
    (key : CellKey) : ((s.cellPairs key).map Pair.candidate).countP OutcomeRecord.passed =
      s.toArguments.successes key := by
  obtain ⟨hcases, hjudged, _⟩ := h.pairing
  unfold Subject.cellPairs Arguments.successes
  rw [← hcases, List.countP_map, List.countP_map, List.countP_filter]
  apply List.countP_congr
  intro p hp
  have hpassed := (hjudged p hp).candidate_passed hholdout
  simp only [Function.comp_apply, Bool.and_eq_true, decide_eq_true_eq]
  rw [hpassed]
  exact and_comm

theorem Subject.Clean.ratesInOrder (h : s.Clean) (hholdout : s.holdoutSet.Perm s.holdout) :
    (∀ c ∈ s.cellReports, RatesInOrder F c.candidateSuccessCiLower c.candidateSuccessRate) ↔
      s.toArguments.BoundsInOrder := by
  have hcell : ∀ key, RatesInOrder F
      (evaluateCell key (s.cellPairs key) s.gatePolicy s.profilePolicy.minSuccessRate
        s.profilePolicy.costWeight).candidateSuccessCiLower
      (evaluateCell key (s.cellPairs key) s.gatePolicy s.profilePolicy.minSuccessRate
        s.profilePolicy.costWeight).candidateSuccessRate ↔
      RatesInOrder F
        (F.round6 (wilsonInterval F (s.toArguments.successes key) (s.toArguments.samples key)
          s.gatePolicy.confidenceLevel).1)
        (F.round6 (F.div (F.ofNat (s.toArguments.successes key))
          (F.ofNat (s.toArguments.samples key)))) := by
    intro key
    rw [← h.length_cellPairs key, ← h.candidate_successes hholdout key]
    rfl
  unfold Subject.cellReports Arguments.BoundsInOrder
  rw [List.forall_mem_map]
  constructor
  · intro hall c hc
    exact (hcell c.cellKey).mp (hall _ (h.mem_cellKeys.mpr ⟨c, hc, rfl⟩))
  · intro hall key hkey
    obtain ⟨c, hc, rfl⟩ := h.mem_cellKeys.mp hkey
    exact (hcell c.cellKey).mpr (hall c hc)

theorem Subject.Clean.formed (h : s.Clean) (hconstructed : Constructed s.environment s.toArguments)
    (hcap : s.plan.canaryBasisPoints ≤ s.gatePolicy.maximumCanaryBasisPoints)
    (validUntil : Instant) : (s.manifest validUntil).Formed := by
  obtain ⟨hplan, hsalt, hgate, hroute, hscorecard, hsource, hevaluator⟩ :
      isSha256 s.plan.planSha256 = true ∧ isSha256 s.plan.assignmentSaltSha256 = true ∧
        isSha256 s.gatePolicy.digest = true ∧ isSha256 s.routePolicy.digest = true ∧
        isSha256 s.scorecard.digest = true ∧ isSha256 s.scorecard.sourceDigest = true ∧
        isSha256 s.environment.evaluatorSha256 = true := by
    simpa using hconstructed.digests
  obtain ⟨verifier, pricing, hverifier, hpricing, _⟩ := h.proven
  obtain ⟨_, hattestation, hharness, hrunner, _⟩ := of_decide_eq_true h.proofComplete
  have hoptional : ∀ o ∈ [s.plan.pricingSha256, s.plan.attestationPolicySha256,
      s.plan.executionHarnessSha256, s.plan.runnerSourceSha256], o.isSome = true →
      ∃ d, o = some d ∧ isSha256 d = true := by
    intro o ho hsome
    obtain ⟨d, rfl⟩ := Option.isSome_iff_exists.mp hsome
    exact ⟨d, rfl, hconstructed.optional _ ho d rfl⟩
  simp only [List.forall_mem_cons] at hoptional
  obtain ⟨hpricingSha, hattestationSha, hharnessSha, hrunnerSha, _⟩ := hoptional
  constructor
  · exact ⟨s.wholeSecond, wholeSeconds_wholeSeconds _, wholeSeconds_wholeSeconds _⟩
  · exact wholeSeconds_mono (min_le_right _ _)
  · exact ⟨s.plan.positive.1, hcap.trans s.gatePolicy.canaryCap⟩
  · exact hsalt
  · simp only [List.forall_mem_cons]
    exact ⟨hplan, hgate, hroute, hscorecard, hsource, hevaluator, hconstructed.proofSet _,
      fun _ hd => by cases hd⟩
  · simp only [List.forall_mem_cons]
    have hpriced : s.plan.pricingSha256.isSome = true := by
      rw [hconstructed.pricing pricing hpricing]
      rfl
    refine ⟨hpricingSha hpriced, hattestationSha hattestation, hharnessSha hharness,
      hrunnerSha hrunner, ?_, fun _ ho => by cases ho⟩
    exact ⟨verifier.configurationSha256, congrArg (Option.map _) hverifier,
      hconstructed.verifier verifier hverifier⟩
  · intro hnil
    have hkeys : s.cellKeys = [] := List.map_eq_nil_iff.mp hnil
    obtain ⟨c, hc⟩ := List.exists_mem_of_ne_nil _ s.plan.nonempty
    have hmem := h.mem_cellKeys.mpr ⟨c, hc, rfl⟩
    rw [hkeys] at hmem
    cases hmem
  · have hkeys : s.cellReports.map CellReport.key = s.cellKeys := by
      unfold Subject.cellReports
      rw [List.map_map]
      exact List.map_id _
    exact hkeys ▸ s.nodup_cellKeys
  · intro c hc
    obtain ⟨key, hkey, rfl⟩ := List.mem_map.mp hc
    obtain ⟨case, hcase, rfl⟩ := h.mem_cellKeys.mp hkey
    refine ⟨hconstructed.cells case hcase, ?_⟩
    change 0 < (s.cellPairs case.cellKey).length
    rw [h.length_cellPairs]
    exact List.countP_pos_iff.mpr ⟨case, hcase, decide_eq_true rfl⟩

theorem Subject.Clean.outlives (h : s.Clean) {validUntil : Instant}
    (hvalid : s.holdoutValidUntil s.holdoutSet = some validUntil)
    (hholdout : s.holdoutSet.Perm s.holdout) :
    s.evaluatedAt + seconds 1 ≤ validUntil ↔ s.toArguments.OutlivesEvaluation := by
  obtain ⟨verifier, pricing, hverifier, hpricing, hproven⟩ := h.proven
  have htime : ∀ r ∈ s.holdoutSet, s.toArguments.signedTime r = some (s.candidateTime r) := by
    intro r hr
    obtain ⟨proof, hproof, hget⟩ := hproven r (List.mem_append_right _ hr)
    unfold Arguments.signedTime
    rw [hverifier, hpricing, Subject.candidateTime_of_get hget]
    simp only [hproof]
  rw [Subject.le_validUntil hvalid]
  constructor
  · intro hall r hr t ht
    have hr' := hholdout.mem_iff.mpr hr
    rw [htime r hr'] at ht
    cases ht
    exact hall r hr'
  · intro hall r hr
    exact hall r (hholdout.mem_iff.mp hr) _ (htime r hr)

/-! ## When a manifest is consumable -/

/-- The runtime reads the manifest, keeps its payload, and has an instant at which it is
valid. -/
def Manifest.Consumable (m : Manifest F) (d : Documents F) : Prop :=
  ∃ read, ReadManifest.fromPayload d (m.payload d) = .ok read ∧ read.payload = m.payload d ∧
    ∃ t, read.notBefore ≤ t ∧ t < read.expiresAt

def letterDigest (letter : Char) : String := String.ofList (List.replicate 64 letter)

theorem isSha256_letterDigest {letter : Char} (h : isLowerHex letter = true) :
    isSha256 (letterDigest letter) = true := by
  simp [isSha256, letterDigest, h]

def digestCase : PromotionCase :=
  { sampleCase with
    configSha256 := letterDigest 'c'
    signalProviderConfigSha256 := letterDigest 'd'
    runtimePlanSha256 := letterDigest 'e' }

def digestBinding (task item caseSha256 : String) (arm : Arm) : OutcomeBinding :=
  { sampleBinding task item caseSha256 arm with
    planSha256 := letterDigest '1'
    bridgeConfigSha256 := letterDigest 'c'
    executionHarnessSha256 := letterDigest 'a'
    runnerSourceSha256 := letterDigest 'b'
    pricingSha256 := letterDigest 'f' }

def digestRecord (task item caseSha256 : String) (arm : Arm) (time : Instant) :
    OutcomeRecord sampleFloats :=
  { sampleRecord task item caseSha256 arm 0 with
    createdAt := time
    configSha256 := letterDigest 'c'
    signalProviderConfigSha256 := letterDigest 'd'
    runtimePlanSha256 := letterDigest 'e'
    pairedRun := some (digestBinding task item caseSha256 arm)
    pairedCost := some ⟨letterDigest 'f', [], ⟨1, 1, "provider", "model", none⟩, 0, true⟩ }

def digestEntry (route : RoutePlan) : ScorecardEntry sampleFloats :=
  { sampleEntry route with
    configSha256 := letterDigest 'c'
    signalProviderConfigSha256 := letterDigest 'd'
    runtimePlanSha256 := letterDigest 'e' }

def digestEnvironment : Environment sampleFloats :=
  { sampleEnvironment with
    evaluatorSha256 := letterDigest '2'
    recordSetDigest := fun _ => letterDigest '3'
    rebuiltDigest := fun _ _ => .ok (letterDigest '4')
    proofSetSha256 := fun _ => letterDigest '5' }

def digestDocuments : Documents sampleFloats where
  sha256Json _ := letterDigest '6'
  reportSha256 _ := letterDigest '7'
  isSha256_sha256Json _ := isSha256_letterDigest (by decide)
  isSha256_reportSha256 _ := isSha256_letterDigest (by decide)

/-- An evaluation at 400 s of evidence that is valid for 100 s; the baseline is signed at a
time, the candidate at 310 s. -/
def digestArguments (baselineTime : Instant) : Arguments sampleFloats :=
  { sampleArguments with
    plan :=
      { sampleArguments.plan with
        routePolicyDigest := letterDigest '8'
        scorecardDigest := letterDigest '4'
        trainingSourceDigest := letterDigest '3'
        gatePolicyDigest := letterDigest '9'
        evaluatorSha256 := letterDigest '2'
        assignmentSaltSha256 := letterDigest '0'
        attestationPolicySha256 := some (letterDigest 'a')
        executionHarnessSha256 := some (letterDigest 'a')
        runnerSourceSha256 := some (letterDigest 'b')
        pricingContract := some ⟨letterDigest 'f', fun _ => true⟩
        pricingSha256 := some (letterDigest 'f')
        planSha256 := letterDigest '1'
        cases := [digestCase]
        nonempty := by decide
        uniqueTasks := List.nodup_singleton _
        uniqueItems := List.nodup_singleton _
        oneProfile := by decide }
    gatePolicy :=
      { sampleArguments.gatePolicy with
        maximumHoldoutAgeSeconds := 100
        digest := letterDigest '9' }
    routePolicy := { sampleArguments.routePolicy with digest := letterDigest '8' }
    scorecard :=
      { sampleArguments.scorecard with
        sourceDigest := letterDigest '3'
        entries := [digestEntry .premium, digestEntry .localOnly]
        digest := letterDigest '4' }
    training := [digestRecord "past" "past-item" "past-case" .baseline (seconds 50),
      digestRecord "past" "past-item" "past-case" .candidate (seconds 60)]
    holdout := [
      digestRecord "task" "item" (Stdlib.cpython.sha256Json digestCase.payload) .baseline
        baselineTime,
      digestRecord "task" "item" (Stdlib.cpython.sha256Json digestCase.payload) .candidate
        (seconds 310)]
    verifier := some
      { sampleVerifier with
        policySha256 := letterDigest 'a'
        runnerSourceSha256 := letterDigest 'b'
        configurationSha256 := letterDigest 'b' } }

theorem digestArguments_constructed (baselineTime : Instant) :
    Constructed digestEnvironment (digestArguments baselineTime) where
  digests := by
    change ∀ d ∈ ['1', '0', '9', '8', '4', '3', '2'].map letterDigest, isSha256 d = true
    exact List.forall_mem_map.mpr fun letter h =>
      isSha256_letterDigest (List.all_eq_true.mp (by decide) letter h)
  optional := by
    change ∀ o ∈ ['f', 'a', 'a', 'b'].map fun letter => some (letterDigest letter),
      ∀ d ∈ o, isSha256 d = true
    rintro o ho d hd
    obtain ⟨letter, hletter, rfl⟩ := List.mem_map.mp ho
    cases hd
    exact isSha256_letterDigest (List.all_eq_true.mp (by decide) letter hletter)
  pricing := by
    rintro contract hcontract
    cases hcontract
    rfl
  verifier := by
    rintro v hv
    cases hv
    exact isSha256_letterDigest (by decide)
  proofSet := by
    intro proofs
    exact isSha256_letterDigest (by decide)
  cells := by
    intro c hc
    rw [List.mem_singleton.mp hc]
    exact ⟨by decide +kernel, by decide +kernel, by decide +kernel, by decide +kernel,
      by decide +kernel, @isSha256_letterDigest 'c' rfl, @isSha256_letterDigest 'd' rfl,
      @isSha256_letterDigest 'e' rfl⟩
  expiry := by
    change wholeSeconds (seconds 4000) = seconds 4000
    decide

/-- Whether a manifest was issued that is not read back. -/
def unreadable (d : Documents F) :
    Except ContractError (Report F × Option (Manifest F)) → Bool
  | .ok (_, some m) => !(ReadManifest.fromPayload d (m.payload d)).isOk
  | .ok (_, none) | .error _ => false

theorem digestArguments_issued :
    issued (evaluateRoutePromotion digestEnvironment (digestArguments (seconds 302))) = true ∧
      unreadable digestDocuments
        (evaluateRoutePromotion digestEnvironment (digestArguments 300500000)) = true := by
  decide +kernel

theorem unreadable_eq_true {d : Documents F}
    {result : Except ContractError (Report F × Option (Manifest F))}
    (h : unreadable d result = true) :
    ∃ report m, result = .ok (report, some m) ∧ ¬ m.Consumable d := by
  unfold unreadable at h
  split at h
  · next report m =>
    refine ⟨report, m, rfl, ?_⟩
    rintro ⟨read, hread, _⟩
    rw [hread] at h
    cases h
  · cases h
  · cases h

end LocalMoe.Promotion
