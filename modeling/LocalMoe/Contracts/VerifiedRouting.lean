/-
  `verified_routing_contracts.py`: the value checks and the canonical digest every metadata
  contract is built from.

  `hashlib.sha256` and `datetime.fromisoformat` are library code. They are fields of `Stdlib`,
  with the documented shape of their results.
-/
import LocalMoe.Contracts.DateTime

namespace LocalMoe.Contracts

/-- `VerifiedRoutingError` and its subclasses: a value broke its typed contract. -/
structure ContractError where
  message : String
  deriving DecidableEq, Repr

def contractVersion : String := "1.0"

/-! ## Value checks -/

/-- `[0-9a-f]`. -/
def isLowerHex (c : Char) : Bool :=
  ('0' ≤ c && c ≤ '9') || ('a' ≤ c && c ≤ 'f')

def isSha256 (s : String) : Bool :=
  s.length == 64 && s.toList.all isLowerHex

/-- `str.isspace` on one character. -/
def isSpace (c : Char) : Bool :=
  let n := c.toNat
  (9 ≤ n && n ≤ 13) || (28 ≤ n && n ≤ 32) || n == 0x85 || n == 0xa0 || n == 0x1680 ||
    (0x2000 ≤ n && n ≤ 0x200a) || n == 0x2028 || n == 0x2029 || n == 0x202f ||
    n == 0x205f || n == 0x3000

def strip (s : String) : String :=
  String.ofList (((s.toList.dropWhile isSpace).reverse.dropWhile isSpace).reverse)

/-- `[A-Za-z0-9]`. -/
def isAlnum (c : Char) : Bool :=
  ('A' ≤ c && c ≤ 'Z') || ('a' ≤ c && c ≤ 'z') || ('0' ≤ c && c ≤ '9')

def isSafeId (s : String) : Bool :=
  match s.toList with
  | [] => false
  | c :: rest =>
    isAlnum c && rest.length ≤ 255 &&
      rest.all fun d => isAlnum d || ['.', '_', ':', '+', '/', '-'].contains d

def requireSha256 (value label : String) : Except ContractError String :=
  if isSha256 value then .ok value
  else .error ⟨label ++ " must be a lowercase SHA-256 digest."⟩

def requireSafeId (value label : String) : Except ContractError String :=
  if isSafeId (strip value) then .ok (strip value)
  else .error ⟨label ++ " must be a safe identifier."⟩

/-- `require_identifier_tuple` on the codes of a set, which never repeat. -/
def requireIdentifiers (codes : Finset String) (label : String) :
    Except ContractError (Finset String) :=
  if ∀ c ∈ codes, isSafeId c = true ∧ strip c = c then .ok codes
  else .error ⟨label ++ " must be a safe identifier."⟩

-- The kernel decodes a literal slowly, and writes out its characters at once.
theorem isSha256_ofList {cs : List Char} (h : (cs.length == 64 && cs.all isLowerHex) = true) :
    isSha256 (String.ofList cs) = true := by
  unfold isSha256
  rw [String.toList_ofList, String.length_ofList]
  exact h

theorem isSafeId_ofList {c : Char} {cs : List Char} (h : (isAlnum c && cs.length ≤ 255 &&
    cs.all fun d => isAlnum d || ['.', '_', ':', '+', '/', '-'].contains d) = true) :
    isSafeId (String.ofList (c :: cs)) = true := by
  unfold isSafeId
  rw [String.toList_ofList]
  exact h

@[simp] theorem requireSha256_eq_ok {value label d : String} :
    requireSha256 value label = .ok d ↔ isSha256 value = true ∧ d = value := by
  unfold requireSha256
  by_cases h : isSha256 value = true <;> simp [h, eq_comm]

@[simp] theorem requireSafeId_eq_ok {value label d : String} :
    requireSafeId value label = .ok d ↔ isSafeId (strip value) = true ∧ d = strip value := by
  unfold requireSafeId
  by_cases h : isSafeId (strip value) = true <;> simp [h, eq_comm]

@[simp] theorem requireIdentifiers_eq_ok {codes d : Finset String} {label : String} :
    requireIdentifiers codes label = .ok d ↔
      (∀ c ∈ codes, isSafeId c = true ∧ strip c = c) ∧ d = codes := by
  unfold requireIdentifiers
  by_cases h : ∀ c ∈ codes, isSafeId c = true ∧ strip c = c
  · rw [if_pos h]
    exact ⟨fun e => ⟨h, (Except.ok.inj e).symm⟩, fun e => e.2 ▸ rfl⟩
  · rw [if_neg h]
    exact ⟨fun e => (by cases e), fun e => absurd e.1 h⟩

/-- A digest, as every contract that holds one guarantees. -/
abbrev Digest := {s : String // isSha256 s = true}

/-- A normalised safe identifier. -/
abbrev SafeId := {s : String // isSafeId s = true ∧ strip s = s}

/-! ## Digests as identifiers -/

theorem isLowerHex_iff {c : Char} : isLowerHex c = true ↔
    (48 ≤ c.toNat ∧ c.toNat ≤ 57) ∨ (97 ≤ c.toNat ∧ c.toNat ≤ 102) := by
  simp [isLowerHex, Char.le_def, UInt32.le_iff_toNat_le]

theorem isSpace_of_isLowerHex {c : Char} (h : isLowerHex c = true) : isSpace c = false := by
  rw [isLowerHex_iff] at h
  simp only [isSpace, Bool.or_eq_false_iff, Bool.and_eq_false_iff, decide_eq_false_iff_not, beq_eq_false_iff_ne]
  omega

theorem isAlnum_of_isLowerHex {c : Char} (h : isLowerHex c = true) : isAlnum c = true := by
  simp only [isLowerHex, Bool.or_eq_true, Bool.and_eq_true, decide_eq_true_eq] at h
  simp only [isAlnum, Bool.or_eq_true, Bool.and_eq_true, decide_eq_true_eq]
  rcases h with h | ⟨h1, h2⟩
  · exact .inr h
  · exact .inl (.inr ⟨h1, h2.trans (by decide)⟩)

theorem strip_eq_self {s : String} (h : ∀ c ∈ s.toList, isSpace c = false) : strip s = s := by
  have hdrop : ∀ {l : List Char}, (∀ c ∈ l, isSpace c = false) → l.dropWhile isSpace = l := by
    intro l hl
    cases l with
    | nil => rfl
    | cons c rest => simp [hl c List.mem_cons_self]
  unfold strip
  rw [hdrop h, hdrop (by simpa using h), List.reverse_reverse, String.ofList_toList]
/-! ## The standard library -/

/-- What `datetime.fromisoformat` makes of a text whose `Z` reads `+00:00`. -/
inductive ParsedTimestamp where
  /-- A UTC instant, in whole seconds. -/
  | utc (value : DateTime)
  /-- An instant without an offset, or with another one. -/
  | otherZone
  /-- `ValueError`. -/
  | malformed
  deriving DecidableEq, Repr

/-- The library functions the contracts call. -/
structure Stdlib where
  /-- `hashlib.sha256(data).hexdigest()`. -/
  sha256 : List UInt8 → String
  /-- `datetime.fromisoformat`. -/
  parseTimestamp : String → ParsedTimestamp
  /-- `hexdigest` renders 64 lowercase hexadecimal digits. -/
  sha256_hex : ∀ data, isSha256 (sha256 data) = true
  /-- `fromisoformat` reads what `isoformat` writes. -/
  parseTimestamp_isoformat : ∀ d : DateTime, parseTimestamp d.isoformat = .utc d

namespace Stdlib

variable (S : Stdlib)

def sha256Json (value : Json) : String := S.sha256 (canonicalJson value)

@[simp] theorem isSha256_sha256Json (value : Json) : isSha256 (S.sha256Json value) = true :=
  S.sha256_hex _

def requireUtcTimestamp (value label : String) : Except ContractError String :=
  match S.parseTimestamp (strip value) with
  | .utc d => .ok d.isoformat
  | .otherZone => .error ⟨label ++ " must use UTC."⟩
  | .malformed => .error ⟨label ++ " must be an ISO-8601 timestamp."⟩

theorem strip_isoformat (d : DateTime) : strip d.isoformat = d.isoformat := by
  have hdigit : ∀ n, isSpace (hexDigit (n % 10)) = false := by
    intro n
    have hn : n % 10 < 10 := Nat.mod_lt _ (by decide)
    generalize n % 10 = m at hn
    interval_cases m <;> decide
  have hmarks : isSpace '-' = false ∧ isSpace 'T' = false ∧ isSpace ':' = false ∧
      isSpace '+' = false ∧ isSpace '0' = false := by decide
  apply strip_eq_self
  simp only [DateTime.isoformat, DateTime.isoChars, DateTime.digits4, DateTime.digits2,
    String.toList_ofList, List.cons_append, List.nil_append, List.forall_mem_cons, hdigit,
    hmarks, List.not_mem_nil, false_implies, implies_true, and_self]

@[simp] theorem requireUtcTimestamp_isoformat (d : DateTime) (label : String) :
    S.requireUtcTimestamp d.isoformat label = .ok d.isoformat := by
  unfold requireUtcTimestamp
  rw [strip_isoformat, S.parseTimestamp_isoformat]

end Stdlib

end LocalMoe.Contracts
