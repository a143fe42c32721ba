/-
  `canonical_json_bytes`: the JSON Canonicalization Scheme of RFC 8785, as the bridge digests
  use it.

  It differs from `canonical_json` in leaving text outside ASCII alone, in the order of keys,
  and in refusing integers a double cannot hold.
-/
import LocalMoe.Contracts.VerifiedRouting

namespace LocalMoe.Contracts

/-- One character of a string. -/
def jcsChar (c : Char) : List Char :=
  let n := c.toNat
  if c = '"' then ['\\', '"']
  else if c = '\\' then ['\\', '\\']
  else if n = 8 then ['\\', 'b']
  else if n = 9 then ['\\', 't']
  else if n = 10 then ['\\', 'n']
  else if n = 12 then ['\\', 'f']
  else if n = 13 then ['\\', 'r']
  else if n < 32 then unicodeEscape n
  else [c]

/-- A string between quotes. -/
def jcsString (s : String) : List Char := '"' :: s.toList.flatMap jcsChar ++ ['"']

/-- The UTF-16 code units keys are ordered by. -/
def utf16 (s : String) : List Nat :=
  s.toList.flatMap fun c =>
    let n := c.toNat
    if n < 65536 then [n] else [55296 + (n - 65536) / 1024, 56320 + (n - 65536) % 1024]

mutual

/-- Integers beyond the safe range of a double are refused. -/
def Json.representable : Json → Bool
  | .null | .bool _ | .str _ => true
  | .int value => -(2 ^ 53 - 1) ≤ value && value ≤ 2 ^ 53 - 1
  | .arr items => Json.representableItems items
  | .obj fields => Json.representableFields fields

def Json.representableItems : List Json → Bool
  | [] => true
  | item :: rest => item.representable && Json.representableItems rest

def Json.representableFields : List (String × Json) → Bool
  | [] => true
  | (_, value) :: rest => value.representable && Json.representableFields rest

end

mutual

/-- `rfc8785.dumps` before its encoding. -/
def jcs : Json → List Char
  | .null => "null".toList
  | .bool true => "true".toList
  | .bool false => "false".toList
  | .int value => (toString value).toList
  | .str value => jcsString value
  | .arr items => '[' :: joinWith ',' (jcsItems items) ++ [']']
  | .obj fields =>
    '{' :: joinWith ',' ((List.insertionSort (fun a b => utf16 a.1 ≤ utf16 b.1)
      (jcsFields fields)).map Prod.snd) ++ ['}']

def jcsItems : List Json → List (List Char)
  | [] => []
  | item :: rest => jcs item :: jcsItems rest

def jcsFields : List (String × Json) → List (String × List Char)
  | [] => []
  | (key, value) :: rest => (key, jcsString key ++ ':' :: jcs value) :: jcsFields rest

end

def canonicalJsonBytes (value : Json) : Except ContractError (List UInt8) :=
  if value.representable then .ok ((jcs value).flatMap String.utf8EncodeChar)
  else .error ⟨"Value is not representable by the RFC 8785 integrity profile."⟩

def Stdlib.canonicalSha256 (S : Stdlib) (value : Json) : Except ContractError String :=
  (canonicalJsonBytes value).map S.sha256

theorem Stdlib.canonicalSha256_of_representable (S : Stdlib) {value : Json}
    (h : value.representable = true) :
    S.canonicalSha256 value = .ok (S.sha256 ((jcs value).flatMap String.utf8EncodeChar)) := by
  unfold Stdlib.canonicalSha256 canonicalJsonBytes
  rw [if_pos h]
  rfl

theorem Json.representableItems_map_str (texts : List String) :
    Json.representableItems (texts.map Json.str) = true := by
  induction texts with
  | nil => rfl
  | cons text rest ih =>
    rw [List.map_cons, Json.representableItems, ih]
    rfl

end LocalMoe.Contracts
