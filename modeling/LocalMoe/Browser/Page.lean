/-
  What `browser_capability.py` reads off URLs and observations.

  The library functions that read URLs and addresses are parameters.
-/
import LocalMoe.Contracts.Value
import LocalMoe.Contracts.VerifiedRouting

namespace LocalMoe.Browser

open Contracts

/-! ## Exceptions -/

/-- What a call can raise. -/
inductive Raised where
  /-- `ToolExecutionError`. -/
  | toolExecution (message : String)
  /-- `McpClientError`. -/
  | mcpClient (message : String)
  /-- Another `Exception`. -/
  | other
  deriving DecidableEq, Repr

/-! ## The standard library -/

/-- The fields of a `SplitResult`, with its `port`. -/
structure SplitResult where
  scheme : String
  username : Option String
  password : Option String
  hostname : Option String
  port : Option Nat
  fragment : String

/-- Functions of the standard library. -/
structure Library where
  /-- `urlsplit` and the `port` of its result; none when one of them raises `ValueError`. -/
  urlsplit : String → Option SplitResult
  /-- `ip_address`: whether it is loopback, and its compressed spelling; none when it raises. -/
  ipAddress : String → Option (Bool × String)
  /-- `str.lower`. -/
  lower : String → String
  /-- `str` of a value that is no string. -/
  str : Value → String
  /-- `hashlib.sha256(text.encode("utf-8")).hexdigest()`. -/
  sha256 : String → Except Raised String

variable (L : Library)

/-- `str(payload.get(key, ""))`. -/
def Library.text (key : String) (payload : List (String × Value)) : String :=
  match Value.field key payload with
  | none => ""
  | some (.str text) => text
  | some value => L.str value

/-! ## Searching text -/

/-- `str.strip(chars)`. -/
def stripChars (chars : List Char) (s : String) : String :=
  String.ofList (((s.toList.dropWhile chars.contains).reverse.dropWhile chars.contains).reverse)

/-- `re.findall`, from a place that is at the start of a line or not, with a matcher for one
place that takes at least a character. -/
def findall {α : Type} (matchAt : Bool → List Char → Option (α × List Char)) :
    Nat → Bool → List Char → List α
  | 0, _, _ => []
  | fuel + 1, lineStart, chars =>
    match matchAt lineStart chars with
    | some (found, rest) => found :: findall matchAt fuel false rest
    | none =>
      match chars with
      | [] => []
      | c :: rest => findall matchAt fuel (c == '\n') rest

/-- `re.findall` in a text. -/
def findallIn {α : Type} (matchAt : Bool → List Char → Option (α × List Char)) (text : String) :
    List α :=
  findall matchAt (text.length + 1) true text.toList

def snapshotLinkAt (_ : Bool) (chars : List Char) : Option (String × List Char) := do
  let rest ← chars.dropPrefix? "[Snapshot](".toList
  match rest.span (· ≠ ')') with
  | (c :: link, ')' :: tail) => some (String.ofList (c :: link), tail)
  | _ => none

/-- `[A-Za-z0-9_-]`. -/
def isReferenceChar (c : Char) : Bool := isAlnum c || c == '_' || c == '-'

/-- `[A-Za-z0-9_-]{1,64}`. -/
def isReference (chars : List Char) : Bool :=
  1 ≤ chars.length && chars.length ≤ 64 && chars.all isReferenceChar

/-- `\[ref=([A-Za-z0-9_-]{1,64})\]`. -/
def referenceAt (_ : Bool) (chars : List Char) : Option (String × List Char) := do
  let rest ← chars.dropPrefix? "[ref=".toList
  match rest.span isReferenceChar with
  | (reference, ']' :: tail) =>
    if isReference reference then some (String.ofList reference, tail) else none
  | _ => none

/-- `(?im)^\s*-?\s*Page URL:\s*(\S+)\s*$`. -/
def pageUrlAt (lineStart : Bool) (chars : List Char) : Option (String × List Char) :=
  if lineStart then do
    let chars := chars.dropWhile isSpace
    let chars := match chars with
      | '-' :: rest => rest.dropWhile isSpace
      | _ => chars
    let label := "page url:".toList
    if (chars.take label.length).map Char.toLower = label then
      let (url, tail) := ((chars.drop label.length).dropWhile isSpace).span (!isSpace ·)
      let gap := tail.takeWhile isSpace
      -- The spaces behind the URL must reach the end of some line.
      if url ≠ [] ∧ ('\n' ∈ gap ∨ gap.length = tail.length) then some (String.ofList url, tail)
      else none
    else none
  else none

/-! ## Origins -/

structure BrowserOrigin where
  scheme : String
  host : String
  port : Nat
  deriving DecidableEq, Repr

def BrowserOrigin.canonical (o : BrowserOrigin) : String :=
  let host := if ':' ∈ o.host.toList then "[" ++ o.host ++ "]" else o.host
  o.scheme ++ "://" ++ host ++ ":" ++ toString o.port

def normalizeLoopbackHost (value : String) : Except Raised String :=
  let inner := stripChars ['[', ']'] (L.lower (strip value))
  let host := String.ofList (inner.toList.reverse.dropWhile (· = '.')).reverse
  if host = "localhost" then .ok host
  else
    match L.ipAddress host with
    | none => .error (.toolExecution
        ("Browser host must be localhost or a literal loopback address: " ++ value))
    | some (isLoopback, compressed) =>
      if isLoopback then .ok compressed
      else .error (.toolExecution ("Browser host is not loopback: " ++ value))

def parseLocalOrigin (allowedHosts : List String) (url : String) :
    Except Raised BrowserOrigin :=
  if url = "" ∨ url ≠ strip url ∨ (url.toList.any fun c => c.toNat ≤ 32) = true then
    .error (.toolExecution "Browser URL contains invalid whitespace or control data.")
  else
    match L.urlsplit url with
    | none => .error (.toolExecution "Browser URL is invalid.")
    | some parsed =>
      if parsed.scheme ≠ "http" ∧ parsed.scheme ≠ "https" then
        .error (.toolExecution "Browser URL must use http or https.")
      else if parsed.username.isSome ∨ parsed.password.isSome then
        .error (.toolExecution "Browser URL cannot contain credentials.")
      else
        match parsed.hostname with
        | none => .error (.toolExecution "Browser URL requires a host.")
        | some hostname => do
          let host ← normalizeLoopbackHost L hostname
          let port := parsed.port.getD (if parsed.scheme = "https" then 443 else 80)
          if host ∉ allowedHosts then
            .error (.toolExecution
              "Browser URL host is outside the configured loopback scope.")
          else if ¬ (1 ≤ port ∧ port ≤ 65535) then
            .error (.toolExecution "Browser URL port is invalid.")
          else if parsed.fragment ≠ "" then
            .error (.toolExecution
              "Browser URL fragments are not accepted by the capability cell.")
          else .ok ⟨parsed.scheme, host, port⟩

/-- `_validated_page_url`, with an expected origin. -/
def validatedPageUrl (allowedHosts : List String) (expectedOrigin : BrowserOrigin)
    (observation : String) : Except Raised String :=
  match findallIn pageUrlAt observation with
  | [] => .error (.toolExecution "Browser observation must attest exactly one current page URL.")
  | url :: rest =>
    if rest.all (· = url) then do
      let actualOrigin ← parseLocalOrigin L allowedHosts url
      if actualOrigin ≠ expectedOrigin then
        .error (.toolExecution "Browser page escaped the approved exact origin.")
      else .ok url
    else .error (.toolExecution "Browser observation must attest exactly one current page URL.")

theorem validatedPageUrl_ok {allowedHosts : List String} {origin : BrowserOrigin}
    {observation url : String} (h : validatedPageUrl L allowedHosts origin observation = .ok url) :
    parseLocalOrigin L allowedHosts url = .ok origin := by
  unfold validatedPageUrl at h
  split at h
  · cases h
  · next found rest _ =>
    split at h
    · rcases hparse : parseLocalOrigin L allowedHosts found with e | actual
      · rw [hparse] at h
        cases h
      · rw [hparse] at h
        change (if actual ≠ origin then _ else _) = _ at h
        split at h
        · cases h
        · next hsame =>
          cases h
          rw [hparse, not_not.mp hsame]
    · cases h

/-! ## Snapshots -/

/-- The characters that end a line for `str.splitlines`. -/
def isLineBreak (c : Char) : Bool :=
  let n := c.toNat
  (10 ≤ n && n ≤ 13) || (28 ≤ n && n ≤ 30) || n == 0x85 || n == 0x2028 || n == 0x2029

/-- The lines of a text; an empty line after a `\r\n` has no part in what follows. -/
def splitlines (text : String) : List String :=
  (text.toList.splitOnP isLineBreak).map String.ofList

/-- `re.sub(r"\s+", " ", text)`, behind a space or not. -/
def collapseSpaces : Bool → List Char → List Char
  | _, [] => []
  | behind, c :: rest =>
    if isSpace c then
      if behind then collapseSpaces true rest else ' ' :: collapseSpaces true rest
    else c :: collapseSpaces false rest

def description (line : String) : String :=
  String.ofList ((collapseSpaces false (stripChars [' ', '-'] line).toList).take 240)

/-- One reference of a line joins the targets. -/
def addTarget (description : String) (targets : List (String × String)) (reference : String) :
    Except Raised (List (String × String)) :=
  match targets.lookup reference with
  | some known =>
    if known ≠ description then
      .error (.toolExecution "Browser snapshot contains an ambiguous target reference.")
    else .ok targets
  | none =>
    .ok (targets ++ [(reference,
      if description = "" then "target from current snapshot" else description)])

def snapshotTargets (snapshot : String) : Except Raised (List (String × String)) :=
  (splitlines snapshot).foldlM (fun targets line =>
    (findallIn referenceAt line).foldlM (addTarget (description line)) targets) []

/-! ## Results -/

structure CallResult where
  isError : Bool
  content : List (List (String × Value))

def itemText (item : List (String × Value)) : Option String :=
  match Value.field "type" item, Value.field "text" item with
  | some (.str "text"), some (.str text) => some text
  | _, _ => none

/-- The text of a result, before a linked snapshot is read. -/
def resultText (result : CallResult) : String :=
  strip ("\n".intercalate ((result.content.filterMap itemText).filter (· ≠ "")))

/-- What `_observation_payload` returns of an observation. -/
structure Observation where
  url : String
  origin : String
  browserSessionId : String
  revision : Nat
  snapshot : String
  snapshotSha256 : String
  snapshotChars : Nat
  truncated : Bool
  blockedEgressAttempts : Nat
  deriving DecidableEq, Repr

/-- `observation[:max_chars]`. -/
def rendered (maxChars : Nat) (observation : String) : String :=
  String.ofList (observation.toList.take maxChars)

def observationPayload (observation currentUrl origin browserSessionId : String)
    (revision maxChars blocked : Nat) : Except Raised Observation := do
  let contentSha256 ← L.sha256 observation
  return {
    url := currentUrl
    origin := origin
    browserSessionId := browserSessionId
    revision := revision
    snapshot := rendered maxChars observation
    snapshotSha256 := contentSha256
    snapshotChars := observation.length
    truncated := decide (maxChars < observation.length)
    blockedEgressAttempts := blocked }

end LocalMoe.Browser
