/-
  Prices and costs are exact, and are read back exactly where their numbers can be stored.
-/
import LocalMoe.Contracts.Sha256
import LocalMoe.Foundation.Loops
import LocalMoe.Pricing.Contracts

namespace LocalMoe.Pricing

open Foundation Contracts Canary

/-! ## Fields that were accepted once -/

@[simp] theorem safeId_str (id : SafeId) (label : String) : safeId (.str id.1) label = .ok id := by
  have hstrip : strip (Json.text (.str id.1)) = id.1 := id.2.2
  have hsafe : isSafeId (strip (Json.text (.str id.1))) = true := by
    rw [hstrip]
    exact id.2.1
  rw [safeId, dif_pos hsafe]
  exact congrArg Except.ok (Subtype.ext hstrip)

@[simp] theorem digest_str (d : Digest) (label : String) : digest (.str d.1) label = .ok d := by
  rw [digest, dif_pos (show isSha256 (Json.text (.str d.1)) = true from d.2)]
  rfl

theorem digest_sha256Json (S : Stdlib) (value : Json) (label : String) :
    digest (.str (S.sha256Json value)) label = .ok ⟨S.sha256Json value, S.isSha256_sha256Json value⟩ :=
  digest_str ⟨S.sha256Json value, S.isSha256_sha256Json value⟩ label

@[simp] theorem tokenCount_int (n : TokenCount) (label : String) :
    tokenCount (.int n.1) label = .ok n := by
  have hnonneg : ¬((n.1 : Int) < 0) := by omega
  simp only [tokenCount, if_neg hnonneg, Int.toNat_natCast, dif_pos n.2]

/-! ## The number of an amount -/

variable (U : Digits)

def Denotes (text : String) (q : ℚ) : Prop := ∃ d, decimalComponents U text = .ok d ∧ d.value = q

def amount (text : String) : ℚ :=
  match decimalComponents U text with
  | .ok d => d.value
  | .error _ => 0

variable (d : Decimal)

theorem decimalComponents_canonicalDecimal :
    decimalComponents U (canonicalDecimal d) = .ok ⟨d.normal.1, -d.normal.2⟩ := by
  rw [canonicalDecimal_eq]
  unfold decimalComponents
  rw [decimalOfText_plain]
  rfl

theorem value_normalDecimal : Decimal.value ⟨d.normal.1, -d.normal.2⟩ = d.value := by
  rw [← Decimal.value_normal d, Decimal.value, zpow_neg, zpow_natCast, div_eq_mul_inv]

theorem denotes_canonicalDecimal : Denotes U (canonicalDecimal d) d.value :=
  ⟨_, decimalComponents_canonicalDecimal U d, value_normalDecimal d⟩

theorem amount_canonicalDecimal : amount U (canonicalDecimal d) = d.value := by
  unfold amount
  rw [decimalComponents_canonicalDecimal]
  exact value_normalDecimal d

theorem denotes_amount (a : AmountText) : Denotes U a.1 (amount U a.1) := by
  obtain ⟨d, -, htext⟩ := a.2
  rw [htext, amount_canonicalDecimal]
  exact denotes_canonicalDecimal U d

variable {a : AmountText}

theorem amountText_eq {b : AmountText} (h : amount U a.1 = amount U b.1) : a = b := by
  obtain ⟨d, -, hd⟩ := a.2
  obtain ⟨e, -, he⟩ := b.2
  rw [hd, he, amount_canonicalDecimal, amount_canonicalDecimal] at h
  exact Subtype.ext (by rw [hd, he, canonicalDecimal_congr h])

theorem amountText_canonicalDecimal {d : Decimal} {label : String} :
    amountText U (.text (canonicalDecimal d)) label = .ok a ↔
      Storable d.value ∧ a.1 = canonicalDecimal d := by
  rw [← canonicalNonNegativeDecimal_canonical U d label a.1]
  unfold amountText
  split
  · next text htext =>
    refine ⟨fun h => ?_, fun h => ?_⟩
    · cases h
      exact htext
    · exact congrArg Except.ok (Subtype.ext (Except.ok.inj (htext.symm.trans h)))
  · next failure hfailure =>
    exact ⟨fun h => (by cases h), fun h => (by cases hfailure.symm.trans h)⟩

theorem amountText_eq_ok {U : Digits} {raw : Amount} {label : String} {d : Decimal}
    (hd : Accepted d) (h : canonicalNonNegativeDecimal U raw label = .ok (canonicalDecimal d)) :
    amountText U raw label = .ok ⟨canonicalDecimal d, d, hd, rfl⟩ := by
  unfold amountText
  split
  · next htext => exact congrArg Except.ok (Subtype.ext (Except.ok.inj (htext.symm.trans h)))
  · next hfailure => cases hfailure.symm.trans h

theorem amountText_text {b : AmountText} {label : String} :
    amountText U (.text a.1) label = .ok b ↔ Storable (amount U a.1) ∧ b = a := by
  obtain ⟨d, -, htext⟩ := a.2
  rw [Subtype.ext_iff, htext, amount_canonicalDecimal]
  exact amountText_canonicalDecimal U

theorem exists_amountText (U : Digits) {d : Decimal} (h : Storable d.value) :
    ∃ a : AmountText, a.1 = canonicalDecimal d := by
  have hok := (canonicalNonNegativeDecimal_canonical U d "" _).mpr ⟨h, rfl⟩
  exact ⟨⟨canonicalDecimal d, canonicalNonNegativeDecimal_eq_ok hok⟩, rfl⟩

/-! ## Prices -/

theorem filter_notMem_self (names : List String) : names.filter (· ∉ names) = [] := by
  rw [List.filter_eq_nil_iff]
  intro name hname
  simpa using hname

theorem requireExactFields_bind {α : Type} {fields : List (String × Json)} {names : List String}
    {label : String} {f : Unit → Except ContractError α} (h : fields.map Prod.fst = names) :
    (requireExactFields fields names label >>= f) = f () := by
  have hok : requireExactFields fields names label = .ok () := by
    simp only [requireExactFields, h, filter_notMem_self, List.mergeSort_nil, check_bind_eq_ok,
      check_eq_ok, true_and]
  rw [hok, ok_bind]

/-- The rates of an item can be stored. -/
def PricingItem.Keeps (item : PricingItem) : Prop :=
  Storable (amount U item.promptUsdPerMillion.1) ∧
    Storable (amount U item.completionUsdPerMillion.1)

theorem PricingItem.fromPayload_payload {item read : PricingItem} :
    PricingItem.fromPayload U item.payload = .ok read ↔ item.Keeps U ∧ read = item := by
  have hread : PricingItem.fromPayload U item.payload =
      PricingItem.make U (.str item.providerId.1) (.str item.model.1)
        (.text item.promptUsdPerMillion.1) (.text item.completionUsdPerMillion.1) := by
    simp only [PricingItem.fromPayload, PricingItem.payload, mapping, ok_bind]
    exact requireExactFields_bind rfl
  rw [hread, PricingItem.make]
  simp only [safeId_str, ok_bind, bind_eq_ok, amountText_text, pure_eq_ok_iff]
  constructor
  · rintro ⟨_, ⟨hprompt, rfl⟩, _, ⟨hcompletion, rfl⟩, rfl⟩
    exact ⟨⟨hprompt, hcompletion⟩, rfl⟩
  · rintro ⟨⟨hprompt, hcompletion⟩, rfl⟩
    exact ⟨_, ⟨hprompt, rfl⟩, _, ⟨hcompletion, rfl⟩, rfl⟩

theorem mapM_payload {α : Type} {payload : α → Json} {read : Json → Except ContractError α}
    {Keeps : α → Prop} (hread : ∀ a b, read (payload a) = .ok b ↔ Keeps a ∧ b = a)
    {items result : List α} : (items.map payload).mapM read = .ok result ↔
      (∀ a ∈ items, Keeps a) ∧ result = items := by
  rw [mapM_ok_iff, List.forall₂_map_left_iff]
  simp only [hread]
  constructor
  · intro h
    induction h with
    | nil => exact ⟨fun _ ha => absurd ha List.not_mem_nil, rfl⟩
    | cons hfirst _ ih =>
      obtain ⟨hkeeps, rfl⟩ := hfirst
      obtain ⟨hall, rfl⟩ := ih
      exact ⟨List.forall_mem_cons.mpr ⟨hkeeps, hall⟩, rfl⟩
  · rintro ⟨hall, rfl⟩
    exact List.forall₂_same.mpr fun a ha => ⟨hall a ha, rfl⟩

theorem PricingContract.make_items (p : PricingContract) :
    PricingContract.make p.items (.str contractVersion) (.str pricingContract) = .ok p := by
  rw [PricingContract.make, check_of (by decide), ok_bind, check_of (by decide), ok_bind,
    dif_pos p.nonempty, dif_pos p.bounded, dif_pos p.unique, dif_pos p.ordered]
  rfl

theorem PricingContract.fromPayload_payload (S : Stdlib) (p : PricingContract) :
    PricingContract.fromPayload S U (p.payload S) = .ok p ↔ ∀ item ∈ p.items, item.Keeps U := by
  have hread : PricingContract.fromPayload S U (p.payload S) = (do
      let items ← (p.items.map PricingItem.payload).mapM (PricingItem.fromPayload U)
      let contract ← PricingContract.make items (.str contractVersion) (.str pricingContract)
      let supplied ← digest (.str (p.pricingSha256 S)) "pricing_sha256"
      check (supplied.1 = contract.pricingSha256 S)
        (⟨"Pricing contract digest is invalid."⟩ : ContractError)
      return contract) := by
    simp only [PricingContract.fromPayload, PricingContract.payload, mapping, ok_bind]
    exact requireExactFields_bind rfl
  rw [hread]
  simp only [bind_eq_ok, mapM_payload fun a b => PricingItem.fromPayload_payload U,
    PricingContract.pricingSha256, digest_sha256Json, pure_eq_ok_iff]
  constructor
  · rintro ⟨_, ⟨hkeeps, rfl⟩, -⟩
    exact hkeeps
  · intro hkeeps
    exact ⟨p.items, ⟨hkeeps, rfl⟩, p, p.make_items, _, rfl, (), check_of rfl, rfl⟩

/-! ## Costs -/

def Priced (p : PricingContract) (m : CommandMetadata) : Prop :=
  ∃ item ∈ p.items, item.key = (m.providerId.1, m.model.1)

def exactCost (p : PricingContract) (m : CommandMetadata) : ℚ :=
  match p.itemFor m.providerId m.model with
  | .ok item => (amount U item.promptUsdPerMillion.1 * m.promptTokens.1 +
      amount U item.completionUsdPerMillion.1 * m.completionTokens.1) / 10 ^ 6
  | .error _ => 0

variable {p : PricingContract} {m : CommandMetadata}

theorem itemFor_of_priced (h : Priced p m) : ∃ item, p.itemFor m.providerId m.model = .ok item := by
  obtain ⟨item, hmem, hkey⟩ := h
  cases hfind : p.items.find? fun item => item.key = (m.providerId.1, m.model.1) with
  | none =>
    have hnone := List.find?_eq_none.mp hfind item hmem
    exact absurd hkey (by simpa using hnone)
  | some found => exact ⟨found, by rw [PricingContract.itemFor, hfind]⟩

theorem commandCost_exact {item : PricingItem} (hitem : p.itemFor m.providerId m.model = .ok item) :
    ∃ d, commandCost U item m = .ok d ∧ d.value = exactCost U p m := by
  obtain ⟨prompt, hprompt, hpromptValue⟩ := denotes_amount U item.promptUsdPerMillion
  obtain ⟨completion, hcompletion, hcompletionValue⟩ :=
    denotes_amount U item.completionUsdPerMillion
  refine ⟨_, by rw [commandCost, hprompt, ok_bind, hcompletion, ok_bind]; rfl, ?_⟩
  rw [value_sumExact, exactCost, hitem]
  simp only [List.map_cons, List.map_nil, List.sum_cons, List.sum_nil, value_tokenCost,
    hpromptValue, hcompletionValue]
  ring

theorem CommandMetadata.make_payload (m : CommandMetadata) (rest : List (String × Json)) :
    CommandMetadata.make (m.payload ++ rest) = .ok m := by
  have hmake : CommandMetadata.make (m.payload ++ rest) = (do
      let providerId ← safeId (.str m.providerId.1) "provider_id"
      let model ← safeId (.str m.model.1) "model"
      let runtime ← digest (.str m.providerRuntimeSha256.1) "provider_runtime_sha256"
      let prompt ← tokenCount (.int m.promptTokens.1) "prompt_tokens"
      let completion ← tokenCount (.int m.completionTokens.1) "completion_tokens"
      return ⟨providerId, model, runtime, prompt, completion⟩) := rfl
  rw [hmake, safeId_str, ok_bind, safeId_str, ok_bind, digest_str, ok_bind, tokenCount_int,
    ok_bind, tokenCount_int, ok_bind]
  rfl

def Shows (p : PricingContract) (m : CommandMetadata) (c : CommandCostEvidence) : Prop :=
  c.metadata = m ∧ amount U c.costUsd.1 = exactCost U p m

theorem buildCommand_eq_ok {raw : Json} (hread : commandMetadata raw = .ok m)
    (hpriced : Priced p m) {c : CommandCostEvidence} :
    buildCommand U p raw = .ok c ↔ Storable (exactCost U p m) ∧ Shows U p m c := by
  obtain ⟨item, hitem⟩ := itemFor_of_priced hpriced
  obtain ⟨d, hd, hvalue⟩ := commandCost_exact U hitem
  have hmake := CommandMetadata.make_payload m []
  rw [List.append_nil] at hmake
  rw [buildCommand, hread, ok_bind, hitem, ok_bind, hd, ok_bind, CommandCostEvidence.make, hmake,
    ok_bind]
  simp only [bind_eq_ok, amountText_canonicalDecimal, pure_eq_ok_iff, Shows, ← hvalue]
  constructor
  · rintro ⟨a, ⟨hstorable, htext⟩, rfl⟩
    exact ⟨hstorable, rfl, by rw [htext, amount_canonicalDecimal]⟩
  · rintro ⟨hstorable, rfl, hamount⟩
    obtain ⟨a, ha⟩ := exists_amountText U hstorable
    have hsame : a = c.costUsd := amountText_eq U (by rw [ha, amount_canonicalDecimal, hamount])
    exact ⟨a, ⟨hstorable, ha⟩, by rw [hsame]⟩

variable {raws : List Json}

theorem buildCommands_eq_ok {evidence result : List CommandCostEvidence}
    (hbound : evidence.length + raws.length ≤ maxCommands) :
    buildCommands U p raws evidence = .ok result ↔
      ∃ new, raws.mapM (buildCommand U p) = .ok new ∧ result = evidence ++ new := by
  induction raws generalizing evidence with
  | nil =>
    simp only [buildCommands, List.mapM_nil, pure_eq_ok_iff, Except.ok.injEq]
    exact ⟨fun h => ⟨[], rfl, by rw [List.append_nil, h]⟩,
      by rintro ⟨_, hnew, h⟩; rw [h, ← hnew, List.append_nil]⟩
  | cons raw rest ih =>
    rw [List.length_cons] at hbound
    have hrest : ∀ c, (evidence ++ [c]).length + rest.length ≤ maxCommands := fun c => by
      rw [List.length_append, List.length_singleton]
      omega
    rw [buildCommands, check_bind_eq_ok, List.mapM_cons]
    simp only [bind_eq_ok, pure_eq_ok_iff]
    constructor
    · rintro ⟨-, c, hc, h⟩
      obtain ⟨new, hnew, rfl⟩ := (ih (hrest c)).mp h
      exact ⟨c :: new, ⟨c, hc, new, hnew, rfl⟩, by rw [List.append_assoc, List.singleton_append]⟩
    · rintro ⟨_, ⟨c, hc, new, hnew, rfl⟩, rfl⟩
      refine ⟨by omega, c, hc, (ih (hrest c)).mpr ⟨new, hnew, ?_⟩⟩
      rw [List.append_assoc, List.singleton_append]

theorem totalOf_exact (commands : List CommandCostEvidence) :
    ∃ d, totalOf U commands = .ok (canonicalDecimal d) ∧
      d.value = (commands.map fun command => amount U command.costUsd.1).sum := by
  have hcosts : ∃ costs, (commands.mapM fun command => decimalComponents U command.costUsd.1) =
      .ok costs ∧ costs.map Decimal.value = commands.map fun command => amount U command.costUsd.1 := by
    induction commands with
    | nil => exact ⟨[], rfl, rfl⟩
    | cons command rest ih =>
      obtain ⟨costs, hcosts, hvalues⟩ := ih
      obtain ⟨d, hd, hvalue⟩ := denotes_amount U command.costUsd
      refine ⟨d :: costs, ?_, by rw [List.map_cons, List.map_cons, hvalue, hvalues]⟩
      rw [List.mapM_cons, hd, ok_bind, hcosts, ok_bind]
      rfl
  obtain ⟨costs, hcosts, hvalues⟩ := hcosts
  refine ⟨sumExact costs, by rw [totalOf, hcosts, ok_bind]; rfl, ?_⟩
  rw [value_sumExact, hvalues]

variable {commands : List CommandCostEvidence} {e : PairedCostEvidence}

theorem PairedCostEvidence.make_eq_ok {sha : Digest} {d : Decimal}
    (htotal : totalOf U commands = .ok (canonicalDecimal d)) (hne : commands ≠ [])
    (hbound : commands.length ≤ maxCommands) :
    PairedCostEvidence.make U (.str sha.1) commands (.text (canonicalDecimal d)) = .ok e ↔
      Storable d.value ∧ e.pricingSha256 = sha ∧ e.commands = commands ∧
        amount U e.totalCostUsd.1 = d.value := by
  rw [PairedCostEvidence.make, digest_str, ok_bind, check_of hne, ok_bind, check_of hbound, ok_bind,
    htotal]
  simp only [bind_eq_ok, amountText_canonicalDecimal, Except.ok.injEq, pure_eq_ok_iff]
  constructor
  · rintro ⟨a, ⟨hstorable, htext⟩, _, rfl, _, -, rfl⟩
    exact ⟨hstorable, rfl, rfl, by rw [htext, amount_canonicalDecimal]⟩
  · rintro ⟨hstorable, rfl, rfl, hamount⟩
    obtain ⟨a, ha⟩ := exists_amountText U hstorable
    have hsame : a = e.totalCostUsd :=
      amountText_eq U (by rw [ha, amount_canonicalDecimal, hamount])
    exact ⟨a, ⟨hstorable, ha⟩, _, rfl, (), check_of ha, by rw [hsame]⟩

variable {records : List CommandMetadata}

theorem mapM_buildCommand (hread : raws.mapM commandMetadata = .ok records)
    (hpriced : ∀ m ∈ records, Priced p m) : raws.mapM (buildCommand U p) = .ok commands ↔
      (∀ m ∈ records, Storable (exactCost U p m)) ∧
        List.Forall₂ (Shows U p) records commands := by
  rw [mapM_ok_iff] at hread ⊢
  induction hread generalizing commands with
  | nil =>
    simp only [List.forall₂_nil_left_iff]
    exact ⟨fun h => ⟨fun _ hm => absurd hm List.not_mem_nil, h⟩, fun h => h.2⟩
  | @cons raw m raws records hfirst _ ih =>
    obtain ⟨hp, hrest⟩ := List.forall_mem_cons.mp hpriced
    constructor
    · rintro (_ | ⟨hc, hcs⟩)
      obtain ⟨hstorable, hshows⟩ := (buildCommand_eq_ok U hfirst hp).mp hc
      obtain ⟨hall, hcommands⟩ := (ih hrest).mp hcs
      exact ⟨List.forall_mem_cons.mpr ⟨hstorable, hall⟩, .cons hshows hcommands⟩
    · rintro ⟨hall, _ | ⟨hshows, hcommands⟩⟩
      obtain ⟨hstorable, hall⟩ := List.forall_mem_cons.mp hall
      exact .cons ((buildCommand_eq_ok U hfirst hp).mpr ⟨hstorable, hshows⟩)
        ((ih hrest).mpr ⟨hall, hcommands⟩)

theorem sum_shown (h : List.Forall₂ (Shows U p) records commands) :
    (commands.map fun command => amount U command.costUsd.1).sum =
      (records.map (exactCost U p)).sum := by
  induction h with
  | nil => rfl
  | cons hshows _ ih => rw [List.map_cons, List.map_cons, List.sum_cons, List.sum_cons, ih, hshows.2]

theorem metadata_shown (h : List.Forall₂ (Shows U p) records commands) :
    commands.map CommandCostEvidence.metadata = records ∧
      ∀ c ∈ commands, amount U c.costUsd.1 = exactCost U p c.metadata := by
  induction h with
  | nil => exact ⟨rfl, fun _ hc => absurd hc List.not_mem_nil⟩
  | cons hshows _ ih =>
    obtain ⟨hmetadata, hamount⟩ := hshows
    refine ⟨by rw [List.map_cons, hmetadata, ih.1], List.forall_mem_cons.mpr ⟨?_, ih.2⟩⟩
    rw [hmetadata]
    exact hamount

variable (S : Stdlib)

/-- The evidence of a run: the digest of its prices, its commands and their total. -/
structure PairedCostEvidence.Exact (p : PricingContract) (records : List CommandMetadata)
    (e : PairedCostEvidence) : Prop where
  pricing : e.pricingSha256.1 = p.pricingSha256 S
  commands : List.Forall₂ (Shows U p) records e.commands
  total : amount U e.totalCostUsd.1 = (records.map (exactCost U p)).sum

/-- The costs of a run can be stored. -/
def CostsKeep (p : PricingContract) (records : List CommandMetadata) : Prop :=
  (∀ m ∈ records, Storable (exactCost U p m)) ∧ Storable (records.map (exactCost U p)).sum

theorem buildCostEvidence_eq_ok (hread : raws.mapM commandMetadata = .ok records)
    (hne : raws ≠ []) (hbound : raws.length ≤ maxCommands) (hpriced : ∀ m ∈ records, Priced p m) :
    buildCostEvidence S U p raws = .ok e ↔ CostsKeep U p records ∧ e.Exact U S p records := by
  have hcount := (mapM_ok_iff.mp hread).length_eq
  have hloop : ∀ evidence, buildCommands U p raws [] = .ok evidence ↔
      (∀ m ∈ records, Storable (exactCost U p m)) ∧
        List.Forall₂ (Shows U p) records evidence := by
    intro evidence
    rw [buildCommands_eq_ok U (by simpa using hbound), ← mapM_buildCommand U hread hpriced]
    exact ⟨fun ⟨_, hnew, h⟩ => by rw [h, List.nil_append]; exact hnew, fun h => ⟨evidence, h, rfl⟩⟩
  have hlength : ∀ {evidence}, List.Forall₂ (Shows U p) records evidence →
      evidence ≠ [] ∧ evidence.length ≤ maxCommands := by
    intro evidence hshown
    rw [← List.length_pos_iff, ← hshown.length_eq, ← hcount, List.length_pos_iff]
    exact ⟨hne, hbound⟩
  have hsha : p.pricingSha256 S = (⟨p.pricingSha256 S, S.isSha256_sha256Json _⟩ : Digest).1 := rfl
  simp only [buildCostEvidence, bind_eq_ok, hloop]
  constructor
  · rintro ⟨evidence, ⟨hall, hshown⟩, _, -, total, htotal, hmake⟩
    obtain ⟨d, hd, hvalue⟩ := totalOf_exact U evidence
    cases hd.symm.trans htotal
    rw [hsha, PairedCostEvidence.make_eq_ok U hd (hlength hshown).1 (hlength hshown).2] at hmake
    obtain ⟨hstorable, hpricing, hcommands, hamount⟩ := hmake
    rw [hvalue, sum_shown U hshown] at hstorable hamount
    exact ⟨⟨hall, hstorable⟩, congrArg Subtype.val hpricing, hcommands ▸ hshown, hamount⟩
  · rintro ⟨⟨hall, hstorable⟩, hpricing, hshown, hamount⟩
    obtain ⟨d, hd, hvalue⟩ := totalOf_exact U e.commands
    rw [sum_shown U hshown] at hvalue
    refine ⟨e.commands, ⟨hall, hshown⟩, (), check_of (hlength hshown).1, _, hd, ?_⟩
    rw [hsha, PairedCostEvidence.make_eq_ok U hd (hlength hshown).1 (hlength hshown).2, hvalue]
    exact ⟨hstorable, Subtype.ext hpricing, rfl, hamount⟩

/-! ## Reading evidence back -/

theorem CommandCostEvidence.fromPayload_payload {c read : CommandCostEvidence} :
    CommandCostEvidence.fromPayload S U (c.payload S) = .ok read ↔
      Storable (amount U c.costUsd.1) ∧ read = c := by
  have hread : CommandCostEvidence.fromPayload S U (c.payload S) = (do
      let evidence ← CommandCostEvidence.make U
        (c.metadata.payload ++ ([("cost_usd", .str c.costUsd.1)] ++
          [("command_sha256", .str (c.commandSha256 S))])) (.text c.costUsd.1)
      let supplied ← digest (.str (c.commandSha256 S)) "command_sha256"
      check (supplied.1 = evidence.commandSha256 S)
        (⟨"Command cost evidence digest is invalid."⟩ : ContractError)
      return evidence) := by
    simp only [CommandCostEvidence.fromPayload, CommandCostEvidence.payload, mapping, ok_bind]
    exact requireExactFields_bind rfl
  rw [hread, CommandCostEvidence.make, CommandMetadata.make_payload, ok_bind]
  simp only [bind_eq_ok, amountText_text, CommandCostEvidence.commandSha256, digest_sha256Json,
    pure_eq_ok_iff]
  constructor
  · rintro ⟨_, ⟨_, ⟨hstorable, rfl⟩, rfl⟩, _, -, _, -, rfl⟩
    exact ⟨hstorable, rfl⟩
  · rintro ⟨hstorable, rfl⟩
    exact ⟨_, ⟨_, ⟨hstorable, rfl⟩, rfl⟩, _, rfl, (), check_of rfl, rfl⟩

theorem isBlank_str {text : String} (hstrip : strip text = text) (hne : text ≠ "") :
    isBlank (.str text) = false := by
  simpa [isBlank, hstrip] using hne

theorem isBlank_safeId (id : SafeId) : isBlank (.str id.1) = false := by
  refine isBlank_str id.2.2 fun hempty => ?_
  have hsafe := id.2.1
  rw [hempty] at hsafe
  exact absurd hsafe (by decide)

theorem isBlank_digest (d : Digest) : isBlank (.str d.1) = false := by
  have hsha := d.2
  rw [isSha256, Bool.and_eq_true, List.all_eq_true] at hsha
  refine isBlank_str (strip_eq_self fun c hc => isSpace_of_isLowerHex (hsha.2 c hc)) fun hempty => ?_
  have hsha := d.2
  rw [hempty] at hsha
  exact absurd hsha (by decide)

theorem commandMetadata_payload (m : CommandMetadata) :
    commandMetadata (.obj m.payload) = .ok m := by
  have hnames : m.payload.map Prod.fst = commandMetadataFields := rfl
  have hpresent : (["provider_id", "model", "provider_runtime_sha256"].forM fun name =>
      check (isBlank (field m.payload name) = false)
        (⟨"Cost evidence is incomplete: " ++ name ++ " is required."⟩ : ContractError)) =
        .ok () := by
    refine forM_eq_ok (List.forall_mem_cons.mpr ⟨check_of (isBlank_safeId m.providerId), ?_⟩)
    refine List.forall_mem_cons.mpr ⟨check_of (isBlank_safeId m.model), ?_⟩
    exact List.forall_mem_singleton.mpr (check_of (isBlank_digest m.providerRuntimeSha256))
  have htokens : (["prompt_tokens", "completion_tokens"].forM fun name =>
      check (isNull (field m.payload name) = false)
        (⟨"Cost evidence is incomplete: " ++ name ++ " is required."⟩ : ContractError)) =
        .ok () := by
    refine forM_eq_ok (List.forall_mem_cons.mpr ⟨check_of rfl, ?_⟩)
    exact List.forall_mem_singleton.mpr (check_of rfl)
  have hmake := CommandMetadata.make_payload m []
  rw [List.append_nil] at hmake
  simp only [commandMetadata, mapping, ok_bind, hnames, filter_notMem_self, List.mergeSort_nil,
    hpresent, htokens, hmake]
  rfl

/-- What the constructor of evidence has checked. -/
structure PairedCostEvidence.Accepted (e : PairedCostEvidence) : Prop where
  nonempty : e.commands ≠ []
  bounded : e.commands.length ≤ maxCommands
  total : amount U e.totalCostUsd.1 =
    (e.commands.map fun command => amount U command.costUsd.1).sum

/-- The numbers of the evidence can be stored. -/
def PairedCostEvidence.Keeps (e : PairedCostEvidence) : Prop :=
  (∀ c ∈ e.commands, Storable (amount U c.costUsd.1)) ∧ Storable (amount U e.totalCostUsd.1)

theorem PairedCostEvidence.make_self (h : e.Accepted U) {read : PairedCostEvidence} :
    PairedCostEvidence.make U (.str e.pricingSha256.1) e.commands (.text e.totalCostUsd.1) =
        .ok read ↔ Storable (amount U e.totalCostUsd.1) ∧ read = e := by
  obtain ⟨d, hd, hvalue⟩ := totalOf_exact U e.commands
  rw [← h.total] at hvalue
  obtain ⟨t, -, ht⟩ := e.totalCostUsd.2
  have hsame : e.totalCostUsd.1 = canonicalDecimal d := by
    rw [ht]
    apply canonicalDecimal_congr
    rw [hvalue, ht, amount_canonicalDecimal]
  rw [hsame, PairedCostEvidence.make_eq_ok U hd h.nonempty h.bounded, amount_canonicalDecimal]
  refine and_congr_right fun _ => ⟨?_, ?_⟩
  · rintro ⟨hsha, hcommands, hamount⟩
    exact PairedCostEvidence.ext hsha hcommands (amountText_eq U (hamount.trans hvalue))
  · rintro rfl
    exact ⟨rfl, rfl, hvalue.symm⟩

theorem PairedCostEvidence.fromPayload_payload {e : PairedCostEvidence} (h : e.Accepted U)
    {read : PairedCostEvidence} : PairedCostEvidence.fromPayload S U (e.payload S) none = .ok read ↔
      e.Keeps U ∧ read = e := by
  have hpayload : PairedCostEvidence.fromPayload S U (e.payload S) none = (do
      let commands ← (e.commands.map fun command => command.payload S).mapM
        (CommandCostEvidence.fromPayload S U)
      let evidence ← PairedCostEvidence.make U (.str e.pricingSha256.1) commands
        (.text e.totalCostUsd.1)
      let supplied ← digest (.str (e.costSha256 S)) "cost_sha256"
      check (supplied.1 = evidence.costSha256 S)
        (⟨"Paired cost evidence digest is invalid."⟩ : ContractError)
      return evidence) := by
    simp only [PairedCostEvidence.fromPayload, PairedCostEvidence.payload, mapping, ok_bind]
    exact requireExactFields_bind rfl
  rw [hpayload]
  simp only [bind_eq_ok, mapM_payload fun a b => CommandCostEvidence.fromPayload_payload U S,
    PairedCostEvidence.costSha256, digest_sha256Json, pure_eq_ok_iff]
  constructor
  · rintro ⟨_, ⟨hcosts, rfl⟩, _, hmake, _, -, _, -, rfl⟩
    obtain ⟨htotal, rfl⟩ := (PairedCostEvidence.make_self U h).mp hmake
    exact ⟨⟨hcosts, htotal⟩, rfl⟩
  · rintro ⟨⟨hcosts, htotal⟩, rfl⟩
    exact ⟨_, ⟨hcosts, rfl⟩, read, (PairedCostEvidence.make_self U h).mpr ⟨htotal, rfl⟩, _, rfl,
      (), check_of rfl, rfl⟩

theorem PairedCostEvidence.fromPayload_some {raw : Json}
    (h : PairedCostEvidence.fromPayload S U raw none = .ok e)
    (hvalid : e.validateAgainst S U p = .ok ()) :
    PairedCostEvidence.fromPayload S U raw (some p) = .ok e := by
  simp only [PairedCostEvidence.fromPayload, bind_eq_ok, pure_eq_ok_iff] at h ⊢
  obtain ⟨fields, hfields, _, hexact, items, hitems, commands, hcommands, evidence, hmake, supplied,
    hsupplied, _, hdigest, rfl⟩ := h
  exact ⟨fields, hfields, _, hexact, items, hitems, commands, hcommands, evidence, hmake, supplied,
    hsupplied, _, hdigest, (), hvalid, rfl⟩

theorem PairedCostEvidence.fromPayload_built (hread : raws.mapM commandMetadata = .ok records)
    (hne : raws ≠ []) (hbound : raws.length ≤ maxCommands) (hpriced : ∀ m ∈ records, Priced p m)
    (hbuilt : buildCostEvidence S U p raws = .ok e) :
    PairedCostEvidence.fromPayload S U (e.payload S) (some p) = .ok e := by
  obtain ⟨hkeeps, hexact⟩ := (buildCostEvidence_eq_ok U S hread hne hbound hpriced).mp hbuilt
  obtain ⟨hall, htotal⟩ := hkeeps
  have hcount := (mapM_ok_iff.mp hread).length_eq
  have hlength := hexact.commands.length_eq
  obtain ⟨hrecords, hamounts⟩ := metadata_shown U hexact.commands
  have hnonempty : e.commands ≠ [] := by
    rw [← List.length_pos_iff, ← hlength, ← hcount, List.length_pos_iff]
    exact hne
  have haccepted : e.Accepted U :=
    ⟨hnonempty, by omega, hexact.total.trans (sum_shown U hexact.commands).symm⟩
  have hkept : e.Keeps U := by
    refine ⟨fun c hc => ?_, hexact.total ▸ htotal⟩
    rw [hamounts c hc]
    exact hall _ (hrecords ▸ List.mem_map_of_mem hc)
  have hmetadata : (e.commands.map fun command => Json.obj command.metadata.payload).mapM
      commandMetadata = .ok records := by
    have hmap : (e.commands.map fun command => Json.obj command.metadata.payload) =
        records.map fun m => Json.obj m.payload := by
      rw [← hrecords, List.map_map]
      rfl
    have hread : ∀ a b, commandMetadata (.obj (CommandMetadata.payload a)) = .ok b ↔
        True ∧ b = a := fun a b => by
      rw [commandMetadata_payload, Except.ok.injEq, true_and, eq_comm]
    rw [hmap, mapM_payload hread]
    exact ⟨fun _ _ => trivial, rfl⟩
  have hagain : buildCostEvidence S U p
      (e.commands.map fun command => .obj command.metadata.payload) = .ok e := by
    refine (buildCostEvidence_eq_ok U S hmetadata ?_ ?_ hpriced).mpr ⟨⟨hall, htotal⟩, hexact⟩
    · rwa [Ne, List.map_eq_nil_iff]
    · rw [List.length_map]
      omega
  refine PairedCostEvidence.fromPayload_some U S
    ((PairedCostEvidence.fromPayload_payload U S haccepted).mpr ⟨hkept, rfl⟩) ?_
  rw [PairedCostEvidence.validateAgainst, check_of hexact.pricing, ok_bind, hagain, ok_bind,
    check_of rfl]

/-! ## Exactness -/

theorem exists_exact (hpriced : ∀ m ∈ records, Priced p m) (hkeeps : CostsKeep U p records) :
    ∃ e : PairedCostEvidence, e.Exact U S p records := by
  obtain ⟨hall, htotal⟩ := hkeeps
  have hcommands : ∃ commands, List.Forall₂ (Shows U p) records commands := by
    clear htotal
    induction records with
    | nil => exact ⟨[], .nil⟩
    | cons m rest ih =>
      obtain ⟨hp, hrest⟩ := List.forall_mem_cons.mp hpriced
      obtain ⟨hstorable, hall⟩ := List.forall_mem_cons.mp hall
      obtain ⟨item, hitem⟩ := itemFor_of_priced hp
      obtain ⟨d, -, hvalue⟩ := commandCost_exact U hitem
      rw [← hvalue] at hstorable
      obtain ⟨a, ha⟩ := exists_amountText U hstorable
      obtain ⟨commands, hshown⟩ := ih hrest hall
      refine ⟨⟨m, a⟩ :: commands, .cons ⟨rfl, ?_⟩ hshown⟩
      rw [ha, amount_canonicalDecimal, hvalue]
  obtain ⟨commands, hshown⟩ := hcommands
  obtain ⟨d, -, hvalue⟩ := totalOf_exact U commands
  rw [sum_shown U hshown] at hvalue
  rw [← hvalue] at htotal
  obtain ⟨a, ha⟩ := exists_amountText U htotal
  refine ⟨⟨⟨p.pricingSha256 S, S.isSha256_sha256Json _⟩, commands, a⟩, rfl, hshown, ?_⟩
  rw [ha, amount_canonicalDecimal, hvalue]

/-- The contract is read back, and every run of priced commands has exact evidence that is
read back, exactly where the numbers can be stored. -/
theorem pricing_exact (p : PricingContract) :
    (PricingContract.fromPayload S U (p.payload S) = .ok p ↔ ∀ item ∈ p.items, item.Keeps U) ∧
    (∀ a b : AmountText, amount U a.1 = amount U b.1 → a.1 = b.1) ∧
    ∀ raws records, raws.mapM commandMetadata = .ok records → raws ≠ [] →
      raws.length ≤ maxCommands → (∀ m ∈ records, Priced p m) →
      ((∃ e, buildCostEvidence S U p raws = .ok e ∧
          List.Forall₂ (fun m c => c.metadata = m ∧ Denotes U c.costUsd.1 (exactCost U p m))
            records e.commands ∧
          Denotes U e.totalCostUsd.1 (records.map (exactCost U p)).sum ∧
          PairedCostEvidence.fromPayload S U (e.payload S) (some p) = .ok e) ↔
        CostsKeep U p records) := by
  refine ⟨PricingContract.fromPayload_payload U S p,
    fun a b h => congrArg Subtype.val (amountText_eq U h),
    fun raws records hread hne hbound hpriced => ⟨?_, fun hkeeps => ?_⟩⟩
  · rintro ⟨e, hbuilt, -⟩
    exact ((buildCostEvidence_eq_ok U S hread hne hbound hpriced).mp hbuilt).1
  · obtain ⟨e, hexact⟩ := exists_exact U S hpriced hkeeps
    have hbuilt := (buildCostEvidence_eq_ok U S hread hne hbound hpriced).mpr ⟨hkeeps, hexact⟩
    have hcosts : ∀ m c, Shows U p m c →
        c.metadata = m ∧ Denotes U c.costUsd.1 (exactCost U p m) := by
      rintro m c ⟨hmetadata, hamount⟩
      rw [← hamount]
      exact ⟨hmetadata, denotes_amount U c.costUsd⟩
    have htotal : Denotes U e.totalCostUsd.1 (records.map (exactCost U p)).sum := by
      rw [← hexact.total]
      exact denotes_amount U e.totalCostUsd
    exact ⟨e, hbuilt, hexact.commands.imp hcosts, htotal,
      PairedCostEvidence.fromPayload_built U S hread hne hbound hpriced hbuilt⟩

/-! ## A price of one million, and one of `1e72` -/

def asciiDigits : Digits where
  decimal c := if c.isDigit then some (c.toNat - 48) else none
  ascii _ _ := rfl

def sampleId : SafeId := ⟨"local", by decide +kernel, by decide +kernel⟩

def samplePrice (d : Decimal) (h : Accepted d) : PricingItem :=
  ⟨sampleId, sampleId, ⟨canonicalDecimal d, d, h, rfl⟩, ⟨canonicalDecimal d, d, h, rfl⟩⟩

def sampleContract (d : Decimal) (h : Accepted d) : PricingContract :=
  ⟨[samplePrice d h], by simp, by simp [maxPricingItems], by simp, by simp⟩

def sampleCommand : CommandMetadata :=
  ⟨sampleId, sampleId, ⟨String.ofList (List.replicate 64 'a'), Eq.refl true⟩, ⟨2, by decide⟩,
    ⟨3, by decide⟩⟩

theorem storable_natCast {n : Nat} (h : n < 10 ^ 64) : Storable n :=
  ⟨n, 0, by simp, h, by decide, fun hne => by
    have := Nat.pos_of_ne_zero hne
    rw [pow_zero]
    exact Nat.mul_pos this (by positivity)⟩

theorem not_storable_large : ¬Storable ((10 : ℚ) ^ 72) := by
  rintro ⟨units, places, hvalue, hunits, -, -⟩
  have hpower : (units : ℚ) = 10 ^ 72 * 10 ^ places := by
    rw [hvalue]
    field_simp
  have hpower' : units = 10 ^ 72 * 10 ^ places := by exact_mod_cast hpower
  have hle : 10 ^ 72 ≤ units := by
    rw [hpower']
    exact Nat.le_mul_of_pos_right _ (by positivity)
  exact absurd (hle.trans_lt hunits) (by decide)

theorem pricing_exact_million :
    ∃ e, buildCostEvidence Stdlib.cpython asciiDigits (sampleContract ⟨1, 6⟩ (by decide +kernel))
        [.obj sampleCommand.payload] = .ok e ∧
      Denotes asciiDigits e.totalCostUsd.1 5 := by
  have hprice : amount asciiDigits (canonicalDecimal ⟨1, 6⟩) = 10 ^ 6 := by
    rw [amount_canonicalDecimal, Decimal.value]
    norm_num
  have hcost : exactCost asciiDigits (sampleContract ⟨1, 6⟩ (by decide +kernel)) sampleCommand =
      (5 : Nat) := by
    have hitem : (sampleContract ⟨1, 6⟩ (by decide +kernel)).itemFor sampleCommand.providerId
        sampleCommand.model = .ok (samplePrice ⟨1, 6⟩ (by decide +kernel)) := rfl
    rw [exactCost, hitem]
    simp only [samplePrice, hprice, sampleCommand]
    norm_num
  have hkeeps : CostsKeep asciiDigits (sampleContract ⟨1, 6⟩ (by decide +kernel))
      [sampleCommand] := by
    simp only [CostsKeep, List.forall_mem_singleton, List.map_singleton, List.sum_singleton, hcost]
    exact ⟨storable_natCast (by decide), storable_natCast (by decide)⟩
  have hread : [Json.obj sampleCommand.payload].mapM commandMetadata = .ok [sampleCommand] := by
    rw [List.mapM_cons, commandMetadata_payload]
    rfl
  obtain ⟨e, hbuilt, -, htotal, -⟩ := ((pricing_exact asciiDigits Stdlib.cpython
    (sampleContract ⟨1, 6⟩ (by decide +kernel))).2.2 _ _ hread (List.cons_ne_nil _ _)
    (by decide) (List.forall_mem_singleton.mpr ⟨_, List.mem_singleton_self _, rfl⟩)).mpr hkeeps
  rw [List.map_singleton, List.sum_singleton, hcost] at htotal
  exact ⟨e, hbuilt, by exact_mod_cast htotal⟩

/-- A rate of `1e72` is accepted, and its contract is not read back. -/
theorem large_rate_not_read_back :
    ∃ item p, PricingItem.make asciiDigits (.str "local") (.str "local") (.text "1e72")
        (.text "1e72") = .ok item ∧
      PricingContract.make [item] (.str contractVersion) (.str pricingContract) = .ok p ∧
      PricingContract.fromPayload Stdlib.cpython asciiDigits (p.payload Stdlib.cpython) ≠ .ok p := by
  have haccepted : Accepted ⟨1, 72⟩ := by decide +kernel
  have hnumber : numberOf asciiDigits (.text "1e72") = some (.finite false ⟨1, 72⟩) := by
    decide +kernel
  have hcanonical : ∀ label, canonicalNonNegativeDecimal asciiDigits (.text "1e72") label =
      .ok (canonicalDecimal ⟨1, 72⟩) := by
    intro label
    simp only [canonicalNonNegativeDecimal, check_bind_eq_ok, hnumber, pure_eq_ok_iff]
    exact ⟨rfl, by decide +kernel, .inl trivial, haccepted, trivial⟩
  refine ⟨samplePrice ⟨1, 72⟩ haccepted, sampleContract ⟨1, 72⟩ haccepted, ?_,
    (sampleContract ⟨1, 72⟩ haccepted).make_items, ?_⟩
  · have hamount := fun label => amountText_eq_ok haccepted (hcanonical label)
    have hid := fun label => safeId_str sampleId label
    simp only [sampleId] at hid
    rw [PricingItem.make, hid, ok_bind, hid, ok_bind, hamount, ok_bind, hamount, ok_bind]
    rfl
  · rw [Ne, PricingContract.fromPayload_payload]
    intro hkeeps
    have hprompt := (hkeeps _ (List.mem_singleton_self _)).1
    simp only [samplePrice, amount_canonicalDecimal, Decimal.value] at hprompt
    exact not_storable_large (by simpa using hprompt)

end LocalMoe.Pricing
