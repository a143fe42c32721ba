/-
  The default text patterns and the default policy.

  Unicode's classes and `str.lower` are taken from outside; on ASCII they are known.
-/
import LocalMoe.Foundation.Regex
import LocalMoe.Secrets.Generated

namespace LocalMoe.Secrets

open Foundation Foundation.Regex
open Contracts (isSpace isAlnum dumpString escapeChar)

/-- What Unicode tells of characters. -/
structure Unicode where
  /-- `\w`. -/
  isWord : Char → Bool
  /-- `\d`. -/
  isDigit : Char → Bool
  /-- `str.lower`. -/
  lower : String → String
  isWord_ascii : ∀ c, c.toNat < 128 → isWord c = (isAlnum c || c == '_')
  isDigit_ascii : ∀ c, c.toNat < 128 → isDigit c = (decide ('0' ≤ c) && decide (c ≤ '9'))
  lower_ascii : ∀ s, (∀ c ∈ s.toList, c.toNat < 128) →
    lower s = String.ofList (s.toList.map Char.toLower)

/-! ## Parts of the patterns -/

/-- A text under `re.IGNORECASE`, given in lower case. -/
def caseless (word : String) : Regex := literal ignoresCase word.toList

/-- A text. -/
def exactly (word : String) : Regex := literal (fun letter c => c == letter) word.toList

/-- One of the characters of a text. -/
def anyOf (options : String) : Regex := .chars fun c => options.toList.contains c

/-- None of the characters of a text. -/
def noneOf (options : String) : Regex := .chars fun c => !options.toList.contains c

/-- None of the characters of a text, and no space. -/
def solid (options : String) : Regex :=
  .chars fun c => !isSpace c && !options.toList.contains c

/-- `\s*`. -/
def spaces : Regex := .star (.chars isSpace)

/-- `.`. -/
def dot : Regex := .chars fun c => c != '\n'

/-- `[_-]`. -/
def separator : Regex := anyOf "_-"

/-- `[A-Za-z0-9]` under `re.IGNORECASE`. -/
def isFoldedAlnum (c : Char) : Bool :=
  isAlnum c || c.toNat == 0x17f || c.toNat == 0x212a || c.toNat == 0x130 || c.toNat == 0x131

/-- `[A-Za-z0-9_]`. -/
def nameChar : Regex := .chars fun c => isAlnum c || c == '_'

/-- `[A-Za-z0-9_-]`. -/
def tokenChar : Regex := .chars fun c => isAlnum c || c == '_' || c == '-'

/-- `[A-Za-z0-9_]` under `re.IGNORECASE`. -/
def foldedNameChar : Regex := .chars fun c => isFoldedAlnum c || c == '_'

/-- `[A-Z0-9]`. -/
def upperOrDigit : Regex :=
  .chars fun c => ('A' ≤ c && c ≤ 'Z') || ('0' ≤ c && c ≤ '9')

/-- `$` under `re.MULTILINE`. -/
def endOfLine : Regex := .assert fun _ following => following.all (· == '\n')

/-- `(?<!['\"])`. -/
def notBehindQuote : Regex :=
  .assert fun previous _ => !previous.any fun c => c == '\'' || c == '"'

/-- Parts with `[_-]?` between them. -/
def joined : List String → Regex
  | [] => .empty
  | [part] => caseless part
  | part :: next :: rest => .seq (caseless part) (.seq (opt separator) (joined (next :: rest)))

/-- The names of the counts that are no secrets. -/
def countHeads : List String :=
  ["max", "min", "input", "output", "total", "prompt", "completion"]

/-- What `_NON_SECRET_TOKEN_KEY` looks for, but for its end. -/
def tokenCountKey : Regex :=
  all [oneOf (countHeads.map caseless), opt separator, caseless "token", opt (caseless "s"),
    opt (all [separator, oneOf [caseless "budget", caseless "count"]])]

def keyPrefixes : Regex := .star (.seq (plus (.chars isFoldedAlnum)) separator)

/-- What `_ASSIGNMENT_SENSITIVE_KEY` ends in, each in its parts. -/
def assignmentKeyParts : List (List String) :=
  [["api", "key"], ["access", "token"], ["refresh", "token"], ["auth", "token"],
    ["client", "secret"], ["private", "key"], ["secret", "access", "key"], ["password"],
    ["passwd"], ["pwd"], ["credentials"], ["credential"], ["secret"], ["token"]]

/-- What `_SENSITIVE_KEY` ends in, each in its parts. -/
def sensitiveKeyParts : List (List String) :=
  [["api", "key"], ["access", "token"], ["refresh", "token"], ["auth", "token"],
    ["authorization"], ["client", "secret"], ["private", "key"], ["secret", "access", "key"],
    ["password"], ["passwd"], ["pwd"], ["credentials"], ["credential"], ["secret"], ["token"]]

section Patterns

variable (U : Unicode)

/-- `\b`. -/
def boundary : Regex :=
  .assert fun previous following => previous.any U.isWord != following.any U.isWord

def nonSecretTokenKey : Regex := .notAhead (.seq tokenCountKey (boundary U))

def keyOf (parts : List (List String)) : Regex :=
  all [nonSecretTokenKey U, keyPrefixes, oneOf (parts.map joined)]

def sensitiveKey : Regex := keyOf U sensitiveKeyParts

def assignmentSensitiveKey : Regex := keyOf U assignmentKeyParts

/-- A field of a JSON text between such quotes. -/
def jsonSecret (quote : Char) : Rule where
  lead := all [.chars (· == quote), sensitiveKey U, .chars (· == quote), spaces,
    .chars (· == ':'), spaces, .chars (· == quote)]
  branches := [⟨.empty,
    .star (oneOf [all [.chars (· == '\\'), dot], .chars fun c => c != quote && c != '\\']),
    .chars (· == quote)⟩]

def assignmentLead : Regex :=
  all [notBehindQuote, boundary U, assignmentSensitiveKey U, boundary U, spaces, anyOf ":=",
    spaces]

/-- An assignment of a text between quotes, whichever the quote. -/
def quotedAssignment : Rule where
  lead := assignmentLead U
  branches := ['\'', '"'].map fun quote => ⟨.chars (· == quote),
    .star (oneOf [all [.chars (· == '\\'), dot], all [.notAhead (.chars (· == quote)), dot]]),
    .chars (· == quote)⟩

def unquotedAssignment : Rule where
  lead := assignmentLead U
  branches := [⟨.notAhead (anyOf "'\""), .seq (.lazyStar (noneOf "\r\n,;\x7d]")) (solid ""),
    all [spaces, .ahead (oneOf [endOfLine, anyOf ",;\x7d]"])]⟩]

def authorizationHeader : Rule where
  lead := all [boundary U, caseless "authorization", spaces, caseless ":", spaces,
    opt (oneOf (["bearer", "basic", "token", "apikey"].map caseless)), spaces]
  branches := [⟨.empty, plus (solid ",;"), .empty⟩]

def wholeSecret (secret : Regex) : Rule := ⟨.empty, [⟨.empty, secret, .empty⟩]⟩

def slackWebhook : Rule :=
  wholeSecret (all [caseless "https://hooks.slack.com/services/", plus foldedNameChar,
    caseless "/", plus foldedNameChar, caseless "/", plus foldedNameChar])

def slackToken : Rule :=
  wholeSecret (all [boundary U, caseless "xox",
    oneOf (["a", "b", "p", "o", "s", "r"].map caseless), caseless "-",
    plus (.seq (plus (.chars U.isDigit)) (caseless "-")), plus (.chars isFoldedAlnum), boundary U])

def githubToken : Rule :=
  wholeSecret (oneOf [
    all [boundary U, oneOf (["ghp", "gho", "ghu", "ghs", "ghr"].map exactly), exactly "_",
      nameChar.times 36, boundary U],
    all [boundary U, exactly "github_pat_", nameChar.times 22, nameChar.upTo 233, boundary U]])

/-- `e{least,most}`, as `least` and how many more. -/
def between (least more : Nat) (e : Regex) : Regex := .seq (e.times least) (e.upTo more)

def gitlabToken : Rule :=
  wholeSecret (oneOf [
    all [boundary U, oneOf (["glpat", "gldt", "glft", "glsoat", "glrt"].map exactly), exactly "-",
      between 20 30 tokenChar, boundary U],
    all [boundary U, exactly "GR1348941", between 20 30 tokenChar, boundary U],
    all [boundary U, exactly "glcbt-", opt (.seq ((Regex.chars isHex).times 2) (exactly "_")),
      between 20 30 tokenChar, boundary U],
    all [boundary U, exactly "glimt-", tokenChar.times 25, boundary U],
    all [boundary U, exactly "glptt-", tokenChar.times 40, boundary U],
    all [boundary U, exactly "glagent-", between 50 974 tokenChar, boundary U],
    all [boundary U, exactly "gloas-", tokenChar.times 64, boundary U]])

def awsAccessKey : Rule :=
  wholeSecret (all [boundary U, oneOf [.seq (exactly "A3T") upperOrDigit, exactly "ABIA",
    exactly "ACCA", exactly "AKIA", exactly "ASIA"], upperOrDigit.times 16, boundary U])

def basicAuthUrl : Rule where
  lead := all [caseless "http", opt (caseless "s"), caseless "://", plus (solid ":/"),
    caseless ":"]
  branches := [⟨.empty, plus (solid "@/"), caseless "@"⟩]

def secretQueryParameter : Rule where
  lead := all [anyOf "?&", sensitiveKey U, caseless "="]
  branches := [⟨.empty, plus (solid "&#"), .empty⟩]

def privateKey : Rule :=
  wholeSecret (all [exactly "-----BEGIN ", .star (noneOf "-\r\n"), exactly "PRIVATE KEY-----",
    .lazyStar (.chars fun _ => true), exactly "-----END ", .star (noneOf "-\r\n"),
    exactly "PRIVATE KEY-----"])

def pattern (name : String) (rule : Rule) : TextSecretPattern where
  name := name
  subn := fun replacement text =>
    let result := rule.subnFrom replacement.toList 0 none text.toList
    (String.ofList result.1, result.2)
  unchanged := fun replacement text h => by
    dsimp only at h ⊢
    rw [rule.subnFrom_unchanged h, String.ofList_toList]

def jsonDoubleQuotedSecret : TextSecretPattern :=
  pattern "json-double-quoted-secret" (jsonSecret U '"')

def defaultTextPatterns : List TextSecretPattern :=
  [jsonDoubleQuotedSecret U,
    pattern "json-single-quoted-secret" (jsonSecret U '\''),
    pattern "quoted-secret-assignment" (quotedAssignment U),
    pattern "unquoted-secret-assignment" (unquotedAssignment U),
    pattern "authorization-header" (authorizationHeader U),
    pattern "slack-webhook" slackWebhook,
    pattern "slack-token" (slackToken U),
    pattern "github-token" (githubToken U),
    pattern "gitlab-token" (gitlabToken U),
    pattern "aws-access-key" (awsAccessKey U),
    pattern "basic-auth-url" basicAuthUrl,
    pattern "secret-query-parameter" (secretQueryParameter U),
    pattern "private-key" privateKey]

def defaultSensitiveKeys : List String :=
  ["api_key", "access_token", "refresh_token", "auth_token", "authorization", "client_secret",
    "private_key", "secret_access_key", "password", "passwd", "pwd", "credential", "credentials",
    "secret", "token"]

def defaultGeneratedMetadataFields : List String :=
  ["artifact_sha256", "checksum", "digest", "fingerprint", "hash", "objective_sha256", "sha1",
    "sha256", "sha512", "task_fingerprint", "workspace_fingerprint"]

/-- `SecretRedactionPolicy()`. -/
def defaultPolicy : SecretRedactionPolicy where
  userControlledFields := ["constraints", "content", "diff", "diff_text", "error", "message",
    "objective", "output", "prompt", "stderr", "stdout"]
  sensitiveKeys := defaultSensitiveKeys
  generatedMetadataFields := defaultGeneratedMetadataFields
  patterns := defaultTextPatterns U
  replacement := "[redacted]"
  requireResidualAssurance := true
  replacement_nonempty := by decide

end Patterns

/-- `json.dumps(` an object with one text `)`. -/
def jsonText (key value : String) : String :=
  String.ofList ('{' :: dumpString key ++ ':' :: ' ' :: dumpString value ++ ['}'])

end LocalMoe.Secrets
