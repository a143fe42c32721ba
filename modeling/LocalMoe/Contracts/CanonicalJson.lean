/-
  `canonical_json`: `json.dumps` with ASCII escapes, sorted keys and no blanks.
-/
import Mathlib.Data.Finset.Sort
import Mathlib.Data.String.Basic

namespace LocalMoe.Contracts

/-- A JSON value as `json.dumps` receives it. -/
inductive Json where
  | null
  | bool (value : Bool)
  | int (value : Int)
  | str (value : String)
  | arr (items : List Json)
  | obj (fields : List (String × Json))
  deriving Inhabited

/-- `None` or a value. -/
def Json.optional {α : Type} (f : α → Json) : Option α → Json
  | none => .null
  | some a => f a

/-- A set of codes as the sorted tuple the contracts store. -/
def Json.codes (codes : Finset String) : Json :=
  .arr ((codes.sort (· ≤ ·)).map Json.str)

/-! ## Rendering -/

/-- The digit of a value below sixteen. -/
def hexDigit (n : Nat) : Char :=
  if n < 10 then Char.ofNat (48 + n) else Char.ofNat (87 + n)

/-- Four hexadecimal digits. -/
def hex4 (n : Nat) : List Char :=
  [hexDigit (n / 4096 % 16), hexDigit (n / 256 % 16), hexDigit (n / 16 % 16), hexDigit (n % 16)]

/-- `\uXXXX`. -/
def unicodeEscape (n : Nat) : List Char := '\\' :: 'u' :: hex4 n

/-- One character of a string with `ensure_ascii`; beyond the basic plane it is a
surrogate pair. -/
def escapeChar (c : Char) : List Char :=
  let n := c.toNat
  if c = '"' then ['\\', '"']
  else if c = '\\' then ['\\', '\\']
  else if n = 8 then ['\\', 'b']
  else if n = 9 then ['\\', 't']
  else if n = 10 then ['\\', 'n']
  else if n = 12 then ['\\', 'f']
  else if n = 13 then ['\\', 'r']
  else if 32 ≤ n ∧ n < 127 then [c]
  else if n < 65536 then unicodeEscape n
  else
    unicodeEscape (55296 + (n - 65536) / 1024) ++ unicodeEscape (56320 + (n - 65536) % 1024)

-- The chain of `escapeChar` is taken apart with this, one test at a time.
theorem forall_mem_ite {α : Type} {p : Prop} [Decidable p] {P : α → Prop} {xs ys : List α}
    (hx : p → ∀ x ∈ xs, P x) (hy : ∀ y ∈ ys, P y) : ∀ x ∈ if p then xs else ys, P x := by
  split
  · exact hx ‹p›
  · exact hy

/-- A string between quotes. -/
def dumpString (s : String) : List Char :=
  '"' :: s.toList.flatMap escapeChar ++ ['"']

/-- `sep.join(parts)`. -/
def joinWith (sep : Char) : List (List Char) → List Char
  | [] => []
  | [part] => part
  | part :: rest => part ++ sep :: joinWith sep rest

mutual

def dumps : Json → List Char
  | .null => "null".toList
  | .bool true => "true".toList
  | .bool false => "false".toList
  | .int value => (toString value).toList
  | .str value => dumpString value
  | .arr items => '[' :: joinWith ',' (dumpItems items) ++ [']']
  | .obj fields =>
    '{' :: joinWith ',' ((List.insertionSort (fun a b => a.1 ≤ b.1)
      (dumpFields fields)).map Prod.snd) ++ ['}']

def dumpItems : List Json → List (List Char)
  | [] => []
  | item :: rest => dumps item :: dumpItems rest

/-- The fields of an object, each with its key. -/
def dumpFields : List (String × Json) → List (String × List Char)
  | [] => []
  | (key, value) :: rest => (key, dumpString key ++ ':' :: dumps value) :: dumpFields rest

end

/-- `canonical_json(value).encode("utf-8")`; the text is ASCII. -/
def canonicalJson (value : Json) : List UInt8 :=
  (dumps value).map fun c => UInt8.ofNat c.toNat

end LocalMoe.Contracts
