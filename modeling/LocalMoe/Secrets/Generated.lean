/-
  The residual detector shields generated digests, scans the lines and puts the digests back.

  `\w`, as `\b` reads it, and the line scanner are taken from outside.
-/
import LocalMoe.Browser.Page
import LocalMoe.Foundation.Substitute
import LocalMoe.Secrets.Redaction

namespace LocalMoe.Secrets

open Foundation Foundation.Substitute
open Contracts (isSpace isAlnum)
open Browser (isLineBreak)

/-- A string, by its characters. -/
abbrev Text := List Char

/-! ## `_GENERATED_TEXT_VALUE` -/

/-- `re.IGNORECASE` on a lower-case letter or a digit of the pattern. -/
def ignoresCase (letter c : Char) : Bool :=
  c == letter || c.toLower == letter || (letter == 's' && c.toNat == 0x17f) ||
    (letter == 'k' && c.toNat == 0x212a) || (letter == 'i' && (c.toNat == 0x130 || c.toNat == 0x131))

/-- `[A-Za-z0-9_.-]` under `re.IGNORECASE`. -/
def isNameChar (c : Char) : Bool :=
  isAlnum c || c == '_' || c == '.' || c == '-' || c.toNat == 0x17f || c.toNat == 0x212a ||
    c.toNat == 0x130 || c.toNat == 0x131

/-- `[0-9A-Fa-f]`. -/
def isHex (c : Char) : Bool :=
  ('0' ≤ c && c ≤ '9') || ('A' ≤ c && c ≤ 'F') || ('a' ≤ c && c ≤ 'f')

/-- `['\"]?`. -/
def takeQuote : Text → Text
  | c :: _ => if c = '\'' ∨ c = '"' then [c] else []
  | [] => []

/-- The words of the pattern, in its order. -/
def generatedWords : List Text :=
  ["sha1", "sha224", "sha256", "sha384", "sha512", "checksum", "digest", "fingerprint",
    "hash"].map String.toList

/-- What follows a word at the head of a text. -/
def afterWord : Text → Text → Option Text
  | [], text => some text
  | _ :: _, [] => none
  | letter :: word, c :: text => if ignoresCase letter c then afterWord word text else none

structure GeneratedMatch where
  prefixText : Text
  value : Text
  suffixText : Text
  deriving DecidableEq, Repr

def GeneratedMatch.text (m : GeneratedMatch) : Text := m.prefixText ++ m.value ++ m.suffixText

/-- The pattern from behind its word on, where `head` has been matched. -/
def matchAssigned (head : Text) (text : Text) : Option GeneratedMatch :=
  let spaces := text.takeWhile isSpace
  match text.dropWhile isSpace with
  | [] => none
  | c :: rest =>
    if c = ':' ∨ c = '=' then
      let blanks := rest.takeWhile isSpace
      let rest := rest.dropWhile isSpace
      let quote := takeQuote rest
      let rest := rest.drop quote.length
      let value := (rest.takeWhile isHex).take 128
      if value.length < 32 then none
      else some ⟨head ++ spaces ++ c :: blanks ++ quote, value, takeQuote (rest.drop value.length)⟩
    else none

/-- The pattern with its optional name of so many characters. -/
def matchNamed (text : Text) (name : Nat) : Option GeneratedMatch :=
  generatedWords.findSome? fun word => do
    let rest ← afterWord word (text.drop name)
    matchAssigned (text.take (name + word.length)) rest

/-- How long `(?:[A-Za-z0-9_.-]*_)?` may be, the longest first. -/
def nameLengths (text : Text) : List Nat :=
  let run := text.takeWhile isNameChar
  (List.range (run.length + 1)).reverse.filter fun n => n = 0 ∨ run[n - 1]? = some '_'

variable (isWord : Char → Bool)

/-- `_GENERATED_TEXT_VALUE.match` behind a character, or at the beginning. -/
def matchGenerated (previous : Option Char) (text : Text) : Option GeneratedMatch :=
  if previous.any isWord = text.head?.any isWord then none
  else (nameLengths text).findSome? (matchNamed text)

/-- What `_GENERATED_TEXT_VALUE.sub` walks over. -/
inductive Piece where
  | plain (c : Char)
  | generated (found : GeneratedMatch)
  deriving DecidableEq

def Piece.text : Piece → Text
  | .plain c => [c]
  | .generated found => found.text

/-- The pieces of a text, once `skip` characters of a match are passed over. -/
def piecesFrom : Nat → Option Char → Text → List Piece
  | _, _, [] => []
  | skip + 1, _, c :: rest => piecesFrom skip (some c) rest
  | 0, previous, c :: rest =>
    match matchGenerated isWord previous (c :: rest) with
    | some found => .generated found :: piecesFrom (found.text.length - 1) (some c) rest
    | none => .plain c :: piecesFrom 0 (some c) rest

def pieces (value : Text) : List Piece := piecesFrom isWord 0 none value

/-! ## Shielding -/

def sentinelName : Text :=
  ['G', 'E', 'N', 'E', 'R', 'A', 'T', 'E', 'D', '_', 'M', 'E', 'T', 'A', 'D', 'A', 'T', 'A', '_',
    'V', 'A', 'L', 'U', 'E', '_']

def sentinelOf (index : Nat) : Text :=
  '_' :: '_' :: sentinelName ++ Nat.toDigits 10 index ++ ['_', '_']

local instance lawfulText : LawfulBEq (List Char) := inferInstance

/-- The first index from `index` on whose placeholder is neither in the value nor in use. It is
looked for `fuel` times: as often as one can be taken, and once more. -/
def freshFrom (value : Text) (sentinels : List Text) : Nat → Nat → Nat
  | 0, index => index
  | fuel + 1, index =>
    if sentinelOf index <:+: value ∨ sentinelOf index ∈ sentinels then
      freshFrom value sentinels fuel (index + 1)
    else index

/-- The index of the next placeholder. -/
def freshIndex (value : Text) (sentinels : List Text) : Nat :=
  freshFrom value sentinels (value.length + sentinels.length) sentinels.length

/-- The substitution over the pieces that are left, where `shielded` placeholders stand for the
values so far. -/
def shieldPieces (value : Text) : List Piece → List (Text × Text) → Text × List (Text × Text)
  | [], shielded => ([], shielded)
  | .plain c :: rest, shielded =>
    let (text, all) := shieldPieces value rest shielded
    (c :: text, all)
  | .generated found :: rest, shielded =>
    let sentinel := sentinelOf (freshIndex value (shielded.map Prod.fst))
    let (text, all) := shieldPieces value rest (shielded ++ [(sentinel, found.value)])
    (found.prefixText ++ sentinel ++ found.suffixText ++ text, all)

def shieldGeneratedTextValues (value : Text) : Text × List (Text × Text) :=
  shieldPieces value (pieces isWord value) []

def restoreGeneratedTextValues (value : Text) (shielded : List (Text × Text)) : Text :=
  shielded.foldl (fun restored entry => replaceAll entry.1 entry.2 restored) value

/-! ## Scanning -/

/-- The lines of a text with their ends, the first of which has begun. -/
def keptLinesFrom (begun : Text) : Text → List Text
  | [] => if begun = [] then [] else [begun]
  | '\r' :: '\n' :: rest => (begun ++ ['\r', '\n']) :: keptLinesFrom [] rest
  | c :: rest =>
    if isLineBreak c then (begun ++ [c]) :: keptLinesFrom [] rest
    else keptLinesFrom (begun ++ [c]) rest

/-- `value.splitlines(keepends=True) or [value]`. -/
def scannedLines (value : Text) : List Text :=
  if keptLinesFrom [] value = [] then [value] else keptLinesFrom [] value

/-- A part of a line that a substitution walks over. -/
inductive Part (α : Type) where
  | kept (a : α)
  | found (occurrence : List α)

/-- The parts of a line of which `char` reads the characters, once `skip` of an occurrence are
passed over. The words are tried in their order. -/
def partsFrom {α : Type} (char : α → Char) (words : List Text) : Nat → List α → List (Part α)
  | _, [] => []
  | skip + 1, _ :: rest => partsFrom char words skip rest
  | 0, a :: rest =>
    match words.find? (· <+: (a :: rest).map char) with
    | some word =>
      .found ((a :: rest).take word.length) :: partsFrom char words (word.length - 1) rest
    | none => .kept a :: partsFrom char words 0 rest

/-- What `scan_line` does with a line: it raises, or it finds values, of which one may be no
string. -/
abbrev LineScanner := Text → Option (List (Option Text))

/-- The longest of the secrets first, each of them once. -/
def orderedSecrets (findings : List (Option Text)) : List Text :=
  (findings.reduceOption.dedup).insertionSort fun s t => t.length ≤ s.length

def lineSecrets (scanLine : LineScanner) (line : Text) : Except RedactionError (List Text) :=
  match scanLine line with
  | none => .error (.unavailable "detect-secrets residual assurance failed closed.")
  | some findings => do
    let unredactable :=
      RedactionError.unavailable "detect-secrets returned an unredactable residual finding."
    check (none ∉ findings ∧ some [] ∉ findings) unredactable
    check (∀ secret ∈ orderedSecrets findings, secret <:+: line) unredactable
    return orderedSecrets findings

/-- What the substitution writes for a part. -/
def Part.redacted (replacement : Text) : Part Char → Text
  | .kept c => [c]
  | .found _ => replacement

/-- Whether a part is an occurrence. -/
def Part.isFound {α : Type} : Part α → Bool
  | .kept _ => false
  | .found _ => true

/-- One round of the loop of `_redact_residual_lines`. -/
def redactLine (replacement : Text) (scanLine : LineScanner) (line : Text) :
    Except RedactionError (Text × Nat) := do
  let ordered ← lineSecrets scanLine line
  let parts := partsFrom id ordered 0 line
  return (parts.flatMap (Part.redacted replacement), parts.countP Part.isFound)

def redactResidualLines (value replacement : Text) (scanLine : LineScanner) :
    Except RedactionError (Text × Nat) := do
  let redacted ← (scannedLines value).mapM (redactLine replacement scanLine)
  return (redacted.flatMap Prod.fst, (redacted.map Prod.snd).sum)

def redactResidual (scanLine : LineScanner) (value replacement : Text) :
    Except RedactionError (Text × Nat) := do
  let (shielded, values) := shieldGeneratedTextValues isWord value
  let (redacted, count) ← redactResidualLines shielded replacement scanLine
  return (restoreGeneratedTextValues redacted values, count)

end LocalMoe.Secrets
