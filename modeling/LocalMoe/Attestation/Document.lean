/-
  The values of a signed JSON document, and what the attestation code uses of other libraries.

  A signed statement is compared with `==`, where a truth value is the number it equals.
-/
import LocalMoe.Contracts.VerifiedRouting
import LocalMoe.Workspace.Datum

namespace LocalMoe.Attestation

open Contracts (isSha256)
open Workspace (Datum)

/-! ## Values -/

/-- A value.  The entries of an object stand in the order of their keys.

A number is its value: below 2^53 the canonical form of a float is the one of the int it
equals, and from there on an int has none. -/
inductive Document where
  | null
  | bool (value : Bool)
  | num (value : ℚ)
  | text (value : String)
  | list (items : List Document)
  | dict (entries : List (String × Document))

namespace Document

mutual

/-- Equality of values. -/
def identical : Document → Document → Bool
  | .null, .null => true
  | .bool a, .bool b => a == b
  | .num a, .num b => a == b
  | .text a, .text b => a == b
  | .list as, .list bs => identicalItems as bs
  | .dict as, .dict bs => identicalEntries as bs
  | _, _ => false

def identicalItems : List Document → List Document → Bool
  | [], [] => true
  | a :: as, b :: bs => identical a b && identicalItems as bs
  | _, _ => false

def identicalEntries : List (String × Document) → List (String × Document) → Bool
  | [], [] => true
  | (k, a) :: as, (l, b) :: bs => k == l && identical a b && identicalEntries as bs
  | _, _ => false

end

mutual

theorem identical_iff : ∀ a b : Document, a.identical b = true ↔ a = b
  | .null, b | .bool _, b | .num _, b | .text _, b => by cases b <;> simp [identical]
  | .list as, b => by cases b <;> simp [identical, identicalItems_iff as]
  | .dict as, b => by cases b <;> simp [identical, identicalEntries_iff as]

theorem identicalItems_iff : ∀ as bs : List Document, identicalItems as bs = true ↔ as = bs
  | [], bs => by cases bs <;> simp [identicalItems]
  | a :: as, bs => by cases bs <;> simp [identicalItems, identical_iff a, identicalItems_iff as]

theorem identicalEntries_iff : ∀ as bs : List (String × Document),
    identicalEntries as bs = true ↔ as = bs
  | [], bs => by cases bs <;> simp [identicalEntries]
  | (k, a) :: as, bs => by
    cases bs with
    | nil => simp [identicalEntries]
    | cons b bs =>
      simp [identicalEntries, identical_iff a, identicalEntries_iff as, Prod.ext_iff,
        and_assoc]

end

instance : DecidableEq Document := fun a b => decidable_of_iff _ (identical_iff a b)

mutual

/-- The value up to `==`: a truth value is a number. -/
def datum : Document → Datum
  | .null => .none
  | .bool value => .num (if value then 1 else 0)
  | .num value => .num value
  | .text value => .text value
  | .list items => .list (datumItems items)
  | .dict entries => .dict (datumEntries entries)

def datumItems : List Document → List Datum
  | [] => []
  | item :: rest => datum item :: datumItems rest

def datumEntries : List (String × Document) → List (String × Datum)
  | [] => []
  | (key, item) :: rest => (key, datum item) :: datumEntries rest

end

mutual

/-- No truth value stands in the value. -/
def unmixed : Document → Bool
  | .bool _ => false
  | .null | .num _ | .text _ => true
  | .list items => unmixedItems items
  | .dict entries => unmixedEntries entries

def unmixedItems : List Document → Bool
  | [] => true
  | item :: rest => unmixed item && unmixedItems rest

def unmixedEntries : List (String × Document) → Bool
  | [] => true
  | (_, item) :: rest => unmixed item && unmixedEntries rest

end

mutual

theorem eq_of_datum : ∀ {a b : Document}, a.unmixed = true → b.unmixed = true →
    a.datum = b.datum → a = b
  | .null, b, _, hb, h => by cases b <;> simp_all [datum, unmixed]
  | .bool _, _, ha, _, _ => by simp [unmixed] at ha
  | .num _, b, _, hb, h | .text _, b, _, hb, h => by cases b <;> simp_all [datum, unmixed]
  | .list items, b, ha, hb, h => by
    cases b with
    | list others =>
      simp only [datum, Datum.list.injEq] at h
      exact congrArg Document.list (eq_of_datumItems ha hb h)
    | _ => simp_all [datum, unmixed]
  | .dict entries, b, ha, hb, h => by
    cases b with
    | dict others =>
      simp only [datum, Datum.dict.injEq] at h
      exact congrArg Document.dict (eq_of_datumEntries ha hb h)
    | _ => simp_all [datum, unmixed]

theorem eq_of_datumItems : ∀ {as bs : List Document}, unmixedItems as = true →
    unmixedItems bs = true → datumItems as = datumItems bs → as = bs
  | [], bs, _, _, h => by cases bs <;> simp_all [datumItems]
  | a :: as, bs, ha, hb, h => by
    cases bs with
    | nil => simp [datumItems] at h
    | cons b bs =>
      simp only [datumItems, List.cons.injEq] at h
      simp only [unmixedItems, Bool.and_eq_true] at ha hb
      rw [eq_of_datum ha.1 hb.1 h.1, eq_of_datumItems ha.2 hb.2 h.2]

theorem eq_of_datumEntries : ∀ {as bs : List (String × Document)}, unmixedEntries as = true →
    unmixedEntries bs = true → datumEntries as = datumEntries bs → as = bs
  | [], bs, _, _, h => by cases bs <;> simp_all [datumEntries]
  | (k, a) :: as, bs, ha, hb, h => by
    cases bs with
    | nil => simp [datumEntries] at h
    | cons b bs =>
      obtain ⟨l, b⟩ := b
      simp only [datumEntries, List.cons.injEq, Prod.mk.injEq] at h
      simp only [unmixedEntries, Bool.and_eq_true] at ha hb
      rw [h.1.1, eq_of_datum ha.1 hb.1 h.1.2, eq_of_datumEntries ha.2 hb.2 h.2]

end

variable {a : Document}

theorem datum_eq_text {t : String} : a.datum = .text t ↔ a = .text t := by
  cases a <;> simp [datum]

theorem datum_eq_list {items : List Datum} :
    a.datum = .list items ↔ ∃ as, a = .list as ∧ datumItems as = items := by
  cases a <;> simp [datum]

theorem datum_eq_dict {entries : List (String × Datum)} :
    a.datum = .dict entries ↔ ∃ es, a = .dict es ∧ datumEntries es = entries := by
  cases a <;> simp [datum]

theorem datumItems_eq_nil {as : List Document} : datumItems as = [] ↔ as = [] := by
  cases as <;> simp [datumItems]

theorem datumItems_eq_cons {as : List Document} {d : Datum} {rest : List Datum} :
    datumItems as = d :: rest ↔ ∃ a as', as = a :: as' ∧ a.datum = d ∧ datumItems as' = rest := by
  cases as <;> simp [datumItems]

variable {es : List (String × Document)}

theorem datumEntries_eq_nil : datumEntries es = [] ↔ es = [] := by
  cases es <;> simp [datumEntries]

theorem datumEntries_eq_cons {key : String} {d : Datum} {rest : List (String × Datum)} :
    datumEntries es = (key, d) :: rest ↔
      ∃ a es', es = (key, a) :: es' ∧ a.datum = d ∧ datumEntries es' = rest := by
  cases es with
  | nil => simp [datumEntries]
  | cons entry es =>
    obtain ⟨name, a⟩ := entry
    simp only [datumEntries, List.cons.injEq, Prod.mk.injEq]
    constructor
    · rintro ⟨⟨rfl, h⟩, h'⟩
      exact ⟨a, es, ⟨⟨rfl, rfl⟩, rfl⟩, h, h'⟩
    · rintro ⟨_, _, ⟨⟨rfl, rfl⟩, rfl⟩, h, h'⟩
      exact ⟨⟨rfl, h⟩, h'⟩

/-- `value.get(key)`, or `value[key]`, on an object. -/
def field (key : String) (entries : List (String × Document)) : Option Document :=
  entries.lookup key

@[simp] theorem field_cons (key name : String) (a : Document) (rest : List (String × Document)) :
    field key ((name, a) :: rest) = if key = name then some a else field key rest := by
  unfold field
  by_cases h : key = name
  · subst h
    simp
  · rw [if_neg h, List.lookup_cons, beq_false_of_ne h]

theorem keys_eq_cons {entries : List (String × Document)} {key : String} {keys : List String} :
    entries.map Prod.fst = key :: keys ↔
      ∃ a rest, entries = (key, a) :: rest ∧ rest.map Prod.fst = keys := by
  cases entries with
  | nil => simp
  | cons entry rest =>
    obtain ⟨name, a⟩ := entry
    simp only [List.map_cons, List.cons.injEq, Prod.mk.injEq]
    constructor
    · rintro ⟨rfl, h⟩
      exact ⟨a, rest, ⟨⟨rfl, rfl⟩, rfl⟩, h⟩
    · rintro ⟨_, _, ⟨⟨rfl, rfl⟩, rfl⟩, h⟩
      exact ⟨rfl, h⟩

/-- `value[key]` on any value. -/
def item (key : String) : Document → Option Document
  | .dict entries => field key entries
  | _ => none

/-- `==`. -/
def same (a : Option Document) (b : Document) : Bool :=
  match a with
  | some a => decide (a.datum = b.datum)
  | none => false

theorem same_some {b : Document} : same (some a) b = true ↔ a.datum = b.datum := by
  simp [same]

@[simp] theorem same_text {t : String} : same (some a) (.text t) = true ↔ a = .text t := by
  rw [same_some, show (text t).datum = .text t from rfl, datum_eq_text]

end Document

/-! ## Libraries -/

/-- What the module uses of `json`, RFC 8785, `base64`, SHA-256 and Ed25519, on byte strings
`β` and public keys `κ`. -/
structure Library (β κ : Type) where
  /-- `len`. -/
  length : β → Nat
  /-- The bytes of an ASCII text. -/
  ascii : String → β
  /-- `+`. -/
  append : β → β → β
  /-- `json.loads`; none when it raises. -/
  loads : β → Option Document
  /-- `canonical_json_bytes`; none when it raises. -/
  canonical : Document → Option β
  /-- `base64.b64decode(value.encode("ascii"), validate=True)`; none when it raises. -/
  b64decode : String → Option β
  /-- `sha256_bytes`. -/
  sha256 : β → String
  /-- `ed25519_public_key_sha256`. -/
  ed25519PublicKeySha256 : κ → String
  /-- The signature (last) was made over exactly this message with the private half of the key;
  `Ed25519PublicKey.verify` returns. -/
  signed : κ → β → β → Bool

structure Library.Lawful {β κ : Type} (L : Library β κ) : Prop where
  /-- A canonical document is read back. -/
  loads_canonical : ∀ document bytes, L.canonical document = some bytes →
    L.loads bytes = some document
  /-- A digest is one. -/
  isSha256_sha256 : ∀ bytes, isSha256 (L.sha256 bytes) = true

theorem Library.Lawful.canonical_injective {β κ : Type} {L : Library β κ} (h : L.Lawful)
    {a b : Document} {bytes : β} (ha : L.canonical a = some bytes)
    (hb : L.canonical b = some bytes) : a = b :=
  Option.some.inj ((h.loads_canonical a bytes ha).symm.trans (h.loads_canonical b bytes hb))

end LocalMoe.Attestation
