/-
  Reading JSON texts as `bytes.splitlines`, `bytes.decode` and `json.loads` do.

  The decoder fails in two ways. A text that is no JSON is malformed. A text that nests deeper
  than the interpreter's recursion limit, or has an integer with more digits than `int` accepts,
  raises something else, wherever in the text that is.

  A text is the list of its code points, so that an escape can name a lone surrogate.
-/
import Mathlib.Data.List.Basic

namespace LocalMoe.Foundation.JsonText

/-! ## Lines -/

/-- The lines of bytes, the first of which has begun. -/
def splitFrom (begun : List UInt8) : List UInt8 → List (List UInt8)
  | [] => if begun = [] then [] else [begun]
  | 13 :: 10 :: rest => begun :: splitFrom [] rest
  | 13 :: rest => begun :: splitFrom [] rest
  | 10 :: rest => begun :: splitFrom [] rest
  | byte :: rest => splitFrom (begun ++ [byte]) rest

def splitLines (bytes : List UInt8) : List (List UInt8) := splitFrom [] bytes

/-! ## Code points -/

def isContinuation (byte : UInt8) : Bool := 128 ≤ byte.toNat && byte.toNat < 192

def payload (byte : UInt8) : Nat := byte.toNat - 128

/-- `bytes.decode("utf-8")`: no overlong form, no surrogate, nothing above U+10FFFF. -/
def decodeUtf8 : List UInt8 → Option (List Nat)
  | [] => some []
  | a :: rest =>
    if a.toNat < 128 then (a.toNat :: ·) <$> decodeUtf8 rest
    else
      match rest with
      | b :: rest =>
        if !isContinuation b then none
        else if 194 ≤ a.toNat && a.toNat < 224 then
          (((a.toNat - 192) * 64 + payload b) :: ·) <$> decodeUtf8 rest
        else
          match rest with
          | c :: rest =>
            if !isContinuation c then none
            else if 224 ≤ a.toNat && a.toNat < 240 then
              let n := (a.toNat - 224) * 4096 + payload b * 64 + payload c
              if n < 2048 || (55296 ≤ n && n < 57344) then none
              else (n :: ·) <$> decodeUtf8 rest
            else
              match rest with
              | d :: rest =>
                let n := (a.toNat - 240) * 262144 + payload b * 4096 + payload c * 64 +
                  payload d
                if !isContinuation d || a.toNat < 240 || n < 65536 || 1114111 < n then
                  none
                else (n :: ·) <$> decodeUtf8 rest
              | [] => none
          | [] => none
      | [] => none

/-! ## Values -/

/-- A decoded value.  The pairs of an object stand in the order of the text. -/
inductive Value where
  | null
  | bool (value : Bool)
  | int (value : Int)
  /-- A float, by the text that spells it. -/
  | float (text : List Nat)
  | str (text : List Nat)
  | arr (items : List Value)
  | obj (pairs : List (List Nat × Value))

def text (s : String) : List Nat := s.toList.map Char.toNat

/-- The value under a key: of several pairs with it, the last one counts. -/
def get (pairs : List (List Nat × Value)) (key : List Nat) : Option Value :=
  pairs.reverse.lookup key

/-- Why a text has no value. -/
inductive Failure where
  /-- `JSONDecodeError`, or `UnicodeDecodeError`. -/
  | malformed
  /-- `RecursionError`. -/
  | recursion
  /-- `ValueError`: an integer with too many digits. -/
  | digits
  deriving DecidableEq, Repr

/-! ## Scanning -/

/-- The digits that an `int` may have. -/
def maxDigits : Nat := 4300

def isBlank (c : Nat) : Bool := c = 32 || c = 9 || c = 10 || c = 13

def isDigit (c : Nat) : Bool := 48 ≤ c && c ≤ 57

/-- The text after its blanks. -/
def skip (s : List Nat) : List Nat := s.dropWhile isBlank

/-- The value of a hexadecimal digit. -/
def hexValue (c : Nat) : Option Nat :=
  if 48 ≤ c ∧ c ≤ 57 then some (c - 48)
  else if 65 ≤ c ∧ c ≤ 70 then some (c - 55)
  else if 97 ≤ c ∧ c ≤ 102 then some (c - 87)
  else none

/-- The unit that four hexadecimal digits name, and the rest. -/
def scanHex : List Nat → Option (Nat × List Nat)
  | a :: b :: c :: d :: rest => do
    let a ← hexValue a
    let b ← hexValue b
    let c ← hexValue c
    let d ← hexValue d
    return (a * 4096 + b * 256 + c * 16 + d, rest)
  | _ => none

/-- The code point of an escape that names a unit: a high surrogate takes the low one that
follows it. -/
def joinSurrogates (unit : Nat) (rest : List Nat) : Nat × List Nat :=
  match rest with
  | 92 :: 117 :: after =>
    match scanHex after with
    | some (low, after) =>
      if 55296 ≤ unit ∧ unit < 56320 ∧ 56320 ≤ low ∧ low < 57344 then
        (65536 + (unit - 55296) * 1024 + (low - 56320), after)
      else (unit, rest)
    | none => (unit, rest)
  | _ => (unit, rest)

def shortEscape (c : Nat) : Option Nat :=
  if c = 34 ∨ c = 92 ∨ c = 47 then some c
  else if c = 98 then some 8
  else if c = 102 then some 12
  else if c = 110 then some 10
  else if c = 114 then some 13
  else if c = 116 then some 9
  else none

/-- A string after its opening quote, and the rest after the closing one. -/
def scanString : Nat → List Nat → List Nat → Except Failure (List Nat × List Nat)
  | 0, _, _ => .error .malformed
  | _ + 1, _, [] => .error .malformed
  | fuel + 1, read, c :: rest =>
    if c = 34 then .ok (read, rest)
    else if c < 32 then .error .malformed
    else if c ≠ 92 then scanString fuel (read ++ [c]) rest
    else
      match rest with
      | 117 :: after =>
        match scanHex after with
        | none => .error .malformed
        | some (unit, after) =>
          let (point, after) := joinSurrogates unit after
          scanString fuel (read ++ [point]) after
      | e :: after =>
        match shortEscape e with
        | none => .error .malformed
        | some point => scanString fuel (read ++ [point]) after
      | [] => .error .malformed

/-- The value of decimal digits. -/
def ofDigits (digits : List Nat) : Nat := digits.foldl (fun n c => n * 10 + (c - 48)) 0

/-- The fraction of a number, empty when a point is not followed by a digit. -/
def scanFraction : List Nat → List Nat × List Nat
  | 46 :: c :: rest =>
    if isDigit c then (46 :: c :: rest.takeWhile isDigit, rest.dropWhile isDigit)
    else ([], 46 :: c :: rest)
  | rest => ([], rest)

/-- The exponent of a number, empty when it has no digits. -/
def scanExponent (s : List Nat) : List Nat × List Nat :=
  match s with
  | e :: rest =>
    if e = 69 ∨ e = 101 then
      let (sign, after) := match rest with
        | c :: after => if c = 43 ∨ c = 45 then ([c], after) else ([], c :: after)
        | [] => ([], [])
      if after.takeWhile isDigit = [] then ([], s)
      else (e :: sign ++ after.takeWhile isDigit, after.dropWhile isDigit)
    else ([], s)
  | [] => ([], s)

/-- A number after its sign. -/
def scanNumber (negative : Bool) (s : List Nat) : Except Failure (Value × List Nat) :=
  match s with
  | [] => .error .malformed
  | c :: rest =>
    if !isDigit c then .error .malformed
    else
      let (digits, rest) :=
        if c = 48 then ([c], rest) else (c :: rest.takeWhile isDigit, rest.dropWhile isDigit)
      let (fraction, rest) := scanFraction rest
      let (exponent, rest) := scanExponent rest
      if fraction = [] ∧ exponent = [] then
        if maxDigits < digits.length then .error .digits
        else .ok (.int (if negative then -(ofDigits digits : Int) else ofDigits digits), rest)
      else .ok (.float ((if negative then [45] else []) ++ digits ++ fraction ++ exponent), rest)

def literals : List (List Nat × Value) :=
  [(text "null", .null), (text "true", .bool true), (text "false", .bool false),
    (text "NaN", .float (text "NaN")), (text "Infinity", .float (text "Infinity")),
    (text "-Infinity", .float (text "-Infinity"))]

/-- A literal or a number. -/
def scanScalar (s : List Nat) : Except Failure (Value × List Nat) :=
  match literals.find? fun l => l.1.isPrefixOf s with
  | some l => .ok (l.2, s.drop l.1.length)
  | none =>
    match s with
    | 45 :: rest => scanNumber true rest
    | s => scanNumber false s

mutual

/-- `scan_once`: a value and the rest of the text.  `depth` is what is left of the recursion
limit; every round consumes a character, so `fuel` is the length of the text. -/
def scanValue : Nat → Nat → List Nat → Except Failure (Value × List Nat)
  | 0, _, _ => .error .malformed
  | fuel + 1, depth, s =>
    match s with
    | 34 :: rest => do
      let (read, rest) ← scanString (rest.length + 1) [] rest
      return (.str read, rest)
    | 123 :: rest =>
      match depth with
      | 0 => .error .recursion
      | depth + 1 =>
        match skip rest with
        | 125 :: rest => .ok (.obj [], rest)
        | rest => scanPairs fuel depth [] rest
    | 91 :: rest =>
      match depth with
      | 0 => .error .recursion
      | depth + 1 =>
        match skip rest with
        | 93 :: rest => .ok (.arr [], rest)
        | rest => scanItems fuel depth [] rest
    | s => scanScalar s

/-- The pairs of an object, from one that must follow. -/
def scanPairs : Nat → Nat → List (List Nat × Value) → List Nat →
    Except Failure (Value × List Nat)
  | 0, _, _, _ => .error .malformed
  | fuel + 1, depth, pairs, s =>
    match s with
    | 34 :: rest => do
      let (key, rest) ← scanString (rest.length + 1) [] rest
      match skip rest with
      | 58 :: rest => do
        let (value, rest) ← scanValue fuel depth (skip rest)
        match skip rest with
        | 125 :: rest => .ok (.obj (pairs ++ [(key, value)]), rest)
        | 44 :: rest => scanPairs fuel depth (pairs ++ [(key, value)]) (skip rest)
        | _ => .error .malformed
      | _ => .error .malformed
    | _ => .error .malformed

/-- The items of an array, from one that must follow. -/
def scanItems : Nat → Nat → List Value → List Nat → Except Failure (Value × List Nat)
  | 0, _, _, _ => .error .malformed
  | fuel + 1, depth, items, s => do
    let (value, rest) ← scanValue fuel depth s
    match skip rest with
    | 93 :: rest => .ok (.arr (items ++ [value]), rest)
    | 44 :: rest => scanItems fuel depth (items ++ [value]) (skip rest)
    | _ => .error .malformed

end

/-- `json.loads(text)`, with what is left of the recursion limit. -/
def loads (limit : Nat) (s : List Nat) : Except Failure Value :=
  if s.head? = some 65279 then .error .malformed
  else
    match scanValue (2 * (skip s).length + 2) limit (skip s) with
    | .error e => .error e
    | .ok (value, rest) => if skip rest = [] then .ok value else .error .malformed

/-- `json.loads(line.decode("utf-8"))`. -/
def loadsBytes (limit : Nat) (line : List UInt8) : Except Failure Value :=
  match decodeUtf8 line with
  | none => .error .malformed
  | some s => loads limit s

/-! ## Examples of texts -/

theorem splitFrom_plain {bytes : List UInt8} (h : ∀ b ∈ bytes, b ≠ 10 ∧ b ≠ 13)
    (begun : List UInt8) (hne : begun ++ bytes ≠ []) :
    splitFrom begun bytes = [begun ++ bytes] := by
  induction bytes generalizing begun with
  | nil =>
    rw [List.append_nil] at hne ⊢
    exact if_neg hne
  | cons b rest ih =>
    obtain ⟨h10, h13⟩ := h b List.mem_cons_self
    rw [splitFrom.eq_5 _ _ _ (fun _ hb _ => h13 hb) (fun hb => h13 hb) (fun hb => h10 hb),
      ih (fun c hc => h c (List.mem_cons_of_mem _ hc)) _ (by simp), List.append_assoc]
    rfl

theorem splitLines_plain {bytes : List UInt8} (hne : bytes ≠ [])
    (h : ∀ b ∈ bytes, b ≠ 10 ∧ b ≠ 13) : splitLines bytes = [bytes] := splitFrom_plain h [] hne

theorem decodeUtf8_cons {a : UInt8} (h : a.toNat < 128) (rest : List UInt8) :
    decodeUtf8 (a :: rest) = (a.toNat :: ·) <$> decodeUtf8 rest := by
  rw [decodeUtf8.eq_def]
  exact if_pos h

theorem decodeUtf8_replicate {a : UInt8} (h : a.toNat < 128) (n : Nat) (rest : List UInt8) :
    decodeUtf8 (List.replicate n a ++ rest) =
      (List.replicate n a.toNat ++ ·) <$> decodeUtf8 rest := by
  induction n with
  | zero => exact (id_map _).symm
  | succ n ih =>
    rw [List.replicate_succ, List.cons_append, decodeUtf8_cons h, ih]
    cases decodeUtf8 rest <;> rfl

theorem scanValue_brackets (rest : List Nat) : ∀ (limit fuel : Nat), 2 * limit < fuel →
    scanValue fuel limit (List.replicate (limit + 1) 91 ++ rest) = .error .recursion := by
  intro limit
  induction limit with
  | zero =>
    intro fuel hfuel
    obtain ⟨fuel, rfl⟩ := Nat.exists_eq_succ_of_ne_zero (Nat.ne_of_gt hfuel)
    rfl
  | succ limit ih =>
    intro fuel hfuel
    obtain ⟨fuel, rfl⟩ : ∃ k, fuel = k + 2 := ⟨fuel - 2, by omega⟩
    have hinner := ih fuel (by omega)
    rw [List.replicate_succ, List.cons_append] at hinner
    rw [List.replicate_succ, List.cons_append, List.replicate_succ, List.cons_append]
    change scanItems (fuel + 1) limit [] (91 :: (List.replicate limit 91 ++ rest)) = _
    unfold scanItems
    rw [hinner]
    rfl

theorem skip_blanks (n : Nat) (s : List Nat) : skip (List.replicate n 32 ++ s) = skip s := by
  unfold skip
  induction n with
  | zero => rfl
  | succ n ih => exact ih

theorem loads_blanks {limit n : Nat} {s : List Nat} (h : s.head? ≠ some 65279) :
    loads limit (List.replicate n 32 ++ s) = loads limit s := by
  have hhead : (List.replicate n 32 ++ s).head? ≠ some 65279 := by
    cases n with
    | zero => exact h
    | succ n => exact fun heq => absurd (Option.some.inj heq) (by decide)
  unfold loads
  rw [if_neg h, if_neg hhead, skip_blanks]

end LocalMoe.Foundation.JsonText
