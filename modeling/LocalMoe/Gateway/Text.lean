/-
  The strings and values that a JSON decoder yields, and the parts of the standard library that
  read them.

  A string is a list of code points, so that a lone surrogate is one of them.
-/
import LocalMoe.Contracts.Value

namespace LocalMoe.Gateway

open Contracts

/-! ## Strings -/

/-- A string, by its code points. -/
abbrev Text := List Nat

/-- A literal. -/
def text (s : String) : Text := s.toList.map Char.toNat

/-- A code point that UTF-8 cannot encode. -/
def isSurrogate (code : Nat) : Bool := 0xd800 ≤ code && code ≤ 0xdfff

/-- `text.encode("utf-8")` returns. -/
def encodable (t : Text) : Bool := t.all fun code => !isSurrogate code

def isAscii (t : Text) : Bool := t.all fun code => code < 128

/-- `str.isspace` on one character. -/
def isSpace (n : Nat) : Bool :=
  (9 ≤ n && n ≤ 13) || (28 ≤ n && n ≤ 32) || n == 0x85 || n == 0xa0 || n == 0x1680 ||
    (0x2000 ≤ n && n ≤ 0x200a) || n == 0x2028 || n == 0x2029 || n == 0x202f ||
    n == 0x205f || n == 0x3000

/-- `str.rstrip` of some characters. -/
def rstripOf (chars : Nat → Bool) (t : Text) : Text := (t.reverse.dropWhile chars).reverse

def strip (t : Text) : Text := rstripOf isSpace (t.dropWhile isSpace)

/-- A string that a decoder yields. -/
structure JsonText where
  chars : Text
  paired : ∀ before high low after, chars = before ++ high :: low :: after →
    ¬ ((0xd800 ≤ high ∧ high ≤ 0xdbff) ∧ (0xdc00 ≤ low ∧ low ≤ 0xdfff))

theorem JsonText.ext {a b : JsonText} (h : a.chars = b.chars) : a = b := by
  cases a
  cases b
  cases h
  rfl

instance : DecidableEq JsonText := fun a b =>
  decidable_of_iff (a.chars = b.chars) ⟨JsonText.ext, fun h => h ▸ rfl⟩

theorem isSurrogate_toNat (c : Char) : isSurrogate c.toNat = false := by
  rcases c.valid with h | h
  · have hlt : c.toNat < 0xd800 := h
    unfold isSurrogate
    simp only [Bool.and_eq_false_iff, decide_eq_false_iff_not]
    omega
  · have hlt : 0xdfff < c.toNat := h.1
    unfold isSurrogate
    simp only [Bool.and_eq_false_iff, decide_eq_false_iff_not]
    omega

/-- A string without surrogates. -/
def JsonText.ofString (s : String) : JsonText where
  chars := text s
  paired := by
    intro before high low after h hpair
    have hmem : high ∈ text s := by
      rw [h]
      exact List.mem_append_right _ List.mem_cons_self
    obtain ⟨c, -, rfl⟩ := List.mem_map.mp hmem
    have hsurrogate := isSurrogate_toNat c
    unfold isSurrogate at hsurrogate
    simp only [Bool.and_eq_false_iff, decide_eq_false_iff_not] at hsurrogate
    omega

/-! ## Values -/

/-- A value that a decoder yields. -/
inductive Item where
  | null
  | bool (value : Bool)
  | int (value : Int)
  | float (value : ℚ)
  /-- An infinite float, or no number. -/
  | nonFinite
  | str (value : JsonText)
  | list (items : List Item)
  | dict (entries : List (JsonText × Item))

def Item.get (key : JsonText) : List (JsonText × Item) → Option Item
  | [] => none
  | (name, item) :: rest => if name = key then some item else Item.get key rest

/-- `dict.get` of a literal. -/
def Item.field (key : String) (entries : List (JsonText × Item)) : Option Item :=
  Item.get (JsonText.ofString key) entries

/-- `entries[key] = item`. -/
def Item.set (key : JsonText) (item : Item) :
    List (JsonText × Item) → List (JsonText × Item)
  | [] => [(key, item)]
  | (name, old) :: rest =>
    if name = key then (name, item) :: rest else (name, old) :: Item.set key item rest

theorem Item.get_set (key other : JsonText) (item : Item) (entries : List (JsonText × Item)) :
    Item.get other (Item.set key item entries) =
      if key = other then some item else Item.get other entries := by
  induction entries with
  | nil => rfl
  | cons entry rest ih =>
    obtain ⟨name, old⟩ := entry
    unfold Item.set
    split
    · next hname =>
      subst hname
      unfold Item.get
      split <;> rfl
    · next hname =>
      unfold Item.get
      rw [ih]
      by_cases hother : name = other
      · subst hother
        rw [if_pos rfl, if_pos rfl, if_neg (Ne.symm hname)]
      · rw [if_neg hother, if_neg hother]

/-- `==` of two values: dictionaries are compared key by key. -/
inductive Item.Same : Item → Item → Prop
  | refl (item : Item) : Item.Same item item
  | list {items others : List Item} (length : items.length = others.length)
      (same : ∀ (i : Nat) a b, items[i]? = some a → others[i]? = some b → Item.Same a b) :
      Item.Same (.list items) (.list others)
  | dict {entries others : List (JsonText × Item)}
      (keys : ∀ key, Item.get key entries = none ↔ Item.get key others = none)
      (same : ∀ key a b, Item.get key entries = some a → Item.get key others = some b →
        Item.Same a b) :
      Item.Same (.dict entries) (.dict others)

theorem Item.Same.trans {a b c : Item} (h : Item.Same a b) (h' : Item.Same b c) :
    Item.Same a c := by
  induction h generalizing c with
  | refl => exact h'
  | list hlength hsame ih =>
    rename_i items others
    cases h' with
    | refl => exact .list hlength hsame
    | list hlength' hsame' =>
      refine .list (hlength.trans hlength') fun i x z hx hz => ?_
      rename_i last
      have hi : i < others.length := by
        rw [hlength']
        exact (List.getElem?_eq_some_iff.mp hz).1
      exact ih i x _ hx (List.getElem?_eq_getElem hi)
        (hsame' i _ z (List.getElem?_eq_getElem hi) hz)
  | dict hkeys hsame ih =>
    rename_i entries others
    cases h' with
    | refl => exact .dict hkeys hsame
    | dict hkeys' hsame' =>
      refine .dict (fun key => (hkeys key).trans (hkeys' key)) fun key x z hx hz => ?_
      rcases hget : Item.get key others with _ | y
      · rw [(hkeys' key).mp hget] at hz
        cases hz
      · exact ih key x y hx hget (hsame' key y z hget hz)

theorem Item.Same.of_dict {entries : List (JsonText × Item)} {b : Item}
    (h : Item.Same (.dict entries) b) : ∃ others, b = .dict others ∧
      (∀ key, Item.get key entries = none ↔ Item.get key others = none) ∧
      ∀ key a b, Item.get key entries = some a → Item.get key others = some b → Item.Same a b := by
  cases h with
  | refl =>
    refine ⟨entries, rfl, fun _ => Iff.rfl, fun key a b ha hb => ?_⟩
    cases ha.symm.trans hb
    exact .refl a
  | dict hkeys hsame => exact ⟨_, rfl, hkeys, hsame⟩

/-! ## The standard library -/

/-- What is read of a `SplitResult`. -/
structure SplitResult where
  scheme : Text
  hostname : Option Text

/-- What is read of an `ip_address`. -/
structure Address where
  isLoopback : Bool
  /-- Its `ipv4_mapped` address is there, and loopback. -/
  mappedLoopback : Bool

/-- Functions of the standard library. -/
structure Library where
  /-- `urlsplit`; none when it raises `ValueError`. -/
  urlsplit : Text → Option SplitResult
  /-- `ip_address`; none when it raises `ValueError`. -/
  ipAddress : Text → Option Address
  /-- `str.lower`. -/
  lower : Text → Text
  /-- `str` of a value that is no string. -/
  str : Item → Text
  /-- `dict`; none when it raises. -/
  dict : Item → Option (List (JsonText × Item))
  /-- `json.dumps` of finite values, with sorted keys and without spaces, as bytes; none when
  it raises `TypeError`, `ValueError` or `RecursionError`. -/
  dumps : Item → Option (List UInt8)
  /-- `json.loads` of such bytes. -/
  loads : List UInt8 → Item
  /-- `hashlib.sha256(body).hexdigest()`. -/
  sha256 : List UInt8 → String
  /-- `hashlib.sha256(text.encode("utf-8")).hexdigest()`, where the text is encodable. -/
  sha256Text : Text → String
  /-- `uuid4()`. -/
  uuid : Text
  /-- `Request` raises `ValueError` at a URL. -/
  refusesUrl : String → Bool
  loads_dumps : ∀ item body, dumps item = some body → Item.Same item (loads body)

variable (L : Library)

/-- `str(entries.get(key, default))`. -/
def Library.textOf (key : String) (otherwise : Text) (entries : List (JsonText × Item)) : Text :=
  match Item.field key entries with
  | none => otherwise
  | some (.str t) => t.chars
  | some item => L.str item

end LocalMoe.Gateway
