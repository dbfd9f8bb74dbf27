import CyberAssess.Findings.Redaction

/-!
# Engines — the secret scanner

`engines/code_sast/secret_scanner.py`.

* `secretRules` is `SECRET_RULES`, `auditLine` what the rules report of a line.
* `auditFile` is the loop over the lines of a file, under its `except Exception`, and
  `auditCodeSecrets` the walk over the repository.

`[about ours]`: of a finding the fields that are not fixed texts of its rule are kept, and of a rule
its identifier, its title and its pattern.
-/

namespace CyberAssess

open Regex Python

/-! ### The rules -/

/-- A rule of `SECRET_RULES`. -/
structure SecretRule where
  checkId : String
  title : String
  pattern : Regex

namespace SecretRules

open CharClass

variable (t : CharTables)

/-- `{n}` of a class. -/
def exactly (n : Nat) (p : Char → Bool) : Regex := .rep p n (some n) true

/-- `+` of a class. -/
def many1 (p : Char → Bool) : Regex := .rep p 1 none true

/-- `\b`. -/
def edge : Regex := .boundary t.isWord

/-- `\d{1,3}`. -/
def octet : Regex := .rep t.isDecimal 1 (some 3) true

/-- `\b(AKIA[0-9A-Z]{16})\b`. -/
def awsAccessKeyId : SecretRule where
  checkId := "SAST-SEC-001"
  title := "Hardcoded AWS Access Key ID"
  pattern := seqs
    [edge t, .group 1 (seqs [lit ['A', 'K', 'I', 'A'], exactly 16 upperOrDigit]), edge t]

/-- `[0-9a-zA-Z\/+]`, under `(?i)`. -/
def awsSecretLetter (c : Char) : Bool := alphanumeric (fold c) || c = '/' || c = '+'

/-- `(?i)aws(.{0,20})?['\"]([0-9a-zA-Z\/+]{40})['\"]`. -/
def awsSecretAccessKey : SecretRule where
  checkId := "SAST-SEC-002"
  title := "Hardcoded AWS Secret Access Key"
  pattern := seqs
    [foldLit ['a', 'w', 's'], opt (.group 1 (.rep (· ≠ '\n') 0 (some 20) true)),
      .one (oneOf ['\'', '"']), .group 2 (exactly 40 awsSecretLetter), .one (oneOf ['\'', '"'])]

/-- `\b(ghp_[0-9a-zA-Z]{36}|github_pat_[0-9a-zA-Z_]{82})\b`. -/
def githubToken : SecretRule where
  checkId := "SAST-SEC-003"
  title := "Hardcoded GitHub Personal Access Token"
  pattern := seqs
    [edge t,
      .group 1 (.alt (seqs [lit ['g', 'h', 'p', '_'], exactly 36 alphanumeric])
        (seqs [lit ['g', 'i', 't', 'h', 'u', 'b', '_', 'p', 'a', 't', '_'],
          exactly 82 fun c => alphanumeric c || c = '_'])),
      edge t]

/-- `\b((?:sk|pk)_(?:test|live)_[0-9a-zA-Z]{24,34})\b`. -/
def stripeKey : SecretRule where
  checkId := "SAST-SEC-004"
  title := "Hardcoded Stripe API Key"
  pattern := seqs
    [edge t,
      .group 1 (seqs [.alt (lit ['s', 'k']) (lit ['p', 'k']), lit ['_'],
        .alt (lit ['t', 'e', 's', 't']) (lit ['l', 'i', 'v', 'e']), lit ['_'],
        .rep alphanumeric 24 (some 34) true]),
      edge t]

/-- `\b(AIza[0-9A-Za-z\-_]{35})\b`. -/
def googleKey : SecretRule where
  checkId := "SAST-SEC-005"
  title := "Hardcoded Google Cloud / Maps API Key"
  pattern := seqs
    [edge t,
      .group 1 (seqs [lit ['A', 'I', 'z', 'a'],
        exactly 35 fun c => alphanumeric c || c = '-' || c = '_']),
      edge t]

/-- `(https:\/\/hooks\.slack\.com\/services\/T[0-9A-Z]{8}\/B[0-9A-Z]{8}\/[0-9a-zA-Z]{24})`. -/
def slackWebhook : SecretRule where
  checkId := "SAST-SEC-006"
  title := "Hardcoded Slack Incoming Webhook URL"
  pattern := .group 1 (seqs
    [lit "https://hooks.slack.com/services/T".toList, exactly 8 upperOrDigit, lit ['/', 'B'],
      exactly 8 upperOrDigit, lit ['/'], exactly 24 alphanumeric])

/-- `(-----BEGIN ((RSA|EC|DSA|OPENSSH) )?PRIVATE KEY-----)`. -/
def privateKey : SecretRule where
  checkId := "SAST-SEC-007"
  title := "Unencrypted Private Cryptographic Key File"
  pattern := .group 1 (seqs
    [lit "-----BEGIN ".toList,
      opt (.group 2 (seqs
        [.group 3 (.alt (lit ['R', 'S', 'A']) (.alt (lit ['E', 'C'])
          (.alt (lit ['D', 'S', 'A']) (lit ['O', 'P', 'E', 'N', 'S', 'S', 'H'])))),
          lit [' ']])),
      lit "PRIVATE KEY-----".toList])

/-- `((postgres|mysql|mongodb|redis):\/\/[a-zA-Z0-9_]+:[^@\s\'\"]+@[a-zA-Z0-9.-]+(:\d+)?[^\s\'\"]*)`. -/
def databaseUri : SecretRule where
  checkId := "SAST-SEC-008"
  title := "Hardcoded Database URI with Embedded Password"
  pattern := .group 1 (seqs
    [.group 2 (.alt (lit "postgres".toList) (.alt (lit "mysql".toList)
      (.alt (lit "mongodb".toList) (lit "redis".toList)))),
      lit [':', '/', '/'], many1 fun c => alphanumeric c || c = '_', lit [':'],
      many1 fun c => !(c = '@' || isSpace c || c = '\'' || c = '"'), lit ['@'],
      many1 fun c => alphanumeric c || c = '.' || c = '-',
      opt (.group 3 (seqs [lit [':'], many1 t.isDecimal])),
      .rep (fun c => !(isSpace c || c = '\'' || c = '"')) 0 none true])

/-- `\b(10\.\d{1,3}\.\d{1,3}\.\d{1,3}|172\.(1[6-9]|2\d|3[01])\.\d{1,3}\.\d{1,3}|192\.168\.\d{1,3}\.\d{1,3})\b`. -/
def internalAddress : SecretRule where
  checkId := "SAST-SEC-009"
  title := "Hardcoded Internal RFC 1918 IP Address"
  pattern := seqs
    [edge t,
      .group 1 (.alt
        (seqs [lit ['1', '0', '.'], octet t, lit ['.'], octet t, lit ['.'], octet t])
        (.alt
          (seqs [lit ['1', '7', '2', '.'],
            .group 2 (.alt (seqs [lit ['1'], .one (oneOf ['6', '7', '8', '9'])])
              (.alt (seqs [lit ['2'], .one t.isDecimal]) (seqs [lit ['3'], .one (oneOf ['0', '1'])]))),
            lit ['.'], octet t, lit ['.'], octet t])
          (seqs [lit ['1', '9', '2', '.', '1', '6', '8', '.'], octet t, lit ['.'], octet t]))),
      edge t]

end SecretRules

open SecretRules in
/-- `SECRET_RULES`. -/
def secretRules (t : CharTables) : List SecretRule :=
  [awsAccessKeyId t, awsSecretAccessKey, githubToken t, stripeKey t, googleKey t, slackWebhook,
    privateKey, databaseUri t, internalAddress t]

/-! ### The scan -/

/-- What a finding of the scanner has of its own. -/
structure SecretFinding where
  checkId : String
  title : String
  location : String
  observedValue : List Char
  lineNumber : Nat
deriving DecidableEq, Repr

/-- `match.groups()` is not empty. -/
def hasGroups : Regex → Bool
  | .group _ _ => true
  | .seq r s | .alt r s => hasGroups r || hasGroups s
  | _ => false

/-- `raw_matched`: `none` is `None`. -/
def rawMatched (rule : SecretRule) (found : Found) : Option (List Char) :=
  if hasGroups rule.pattern then found.group 1 else found.group 0

/-- The addresses that are no finding. -/
def dummyAddresses : List (List Char) := ["127.0.0.1".toList, "0.0.0.0".toList]

/-- `location_str`. -/
def secretPlace (relPath : String) (lineNum : Nat) : String := relPath ++ ":" ++ toString lineNum

/-- What a rule reports of a line; `none` where it raises. -/
def ruleEvents (relPath : String) (lineNum : Nat) (line : List Char) (rule : SecretRule) :
    List (Option SecretFinding) :=
  match rule.pattern.search line with
  | none => []
  | some found =>
      match rawMatched rule found with
      | none => [none]
      | some raw =>
          if rule.checkId = "SAST-SEC-009" ∧ raw ∈ dummyAddresses then []
          else
            [some
              { checkId := rule.checkId
                title := rule.title
                location := secretPlace relPath lineNum
                observedValue := maskSecret raw
                lineNumber := lineNum }]

/-- What is reported of a line. -/
def auditLine (t : CharTables) (relPath : String) (lineNum : Nat) (line : List Char) :
    List (Option SecretFinding) :=
  let stripped := stripChars line
  if stripped = [] then []
  else if 2000 < stripped.length then []
  else (secretRules t).flatMap (ruleEvents relPath lineNum stripped)

/-- The lines of a file, after the characters `line` of the first, last first: each ends at `\n`,
`\r` or `\r\n`. -/
def fileLinesAfter (line : List Char) : List Char → List (List Char)
  | [] => if line.isEmpty then [] else [line.reverse]
  | '\r' :: '\n' :: cs => line.reverse :: fileLinesAfter [] cs
  | c :: cs => if c = '\n' || c = '\r' then line.reverse :: fileLinesAfter [] cs
      else fileLinesAfter (c :: line) cs

/-- The lines of a file. -/
def fileLines (text : List Char) : List (List Char) := fileLinesAfter [] text

/-- What was reported before something raised. -/
def untilRaised (events : List (Option SecretFinding)) : List SecretFinding :=
  (events.takeWhile Option.isSome).filterMap id

/-- What is reported of a file. -/
def auditFile (t : CharTables) (relPath : String) (text : List Char) : List SecretFinding :=
  untilRaised (((fileLines text).zipIdx 1).flatMap fun line => auditLine t relPath line.2 line.1)

/-! ### The repository -/

/-- `IGNORED_DIRS`. -/
def ignoredDirs : List String :=
  [".git", "node_modules", "venv", ".venv", "env", "__pycache__", ".idea", ".vscode", "dist", "build",
    "coverage", ".pytest_cache"]

/-- `IGNORED_EXTS`. -/
def ignoredExts : List String :=
  [".png", ".jpg", ".jpeg", ".gif", ".ico", ".svg", ".woff", ".woff2", ".ttf", ".eot", ".mp4", ".mp3",
    ".zip", ".tar", ".gz", ".exe", ".dll", ".so", ".dylib", ".min.js", ".min.css", ".map"]

/-- A file of the repository: the names of the directories down to it with whether each is a link,
its suffix in lower case, and its text, when it can be read. -/
structure SourceEntry where
  relPath : String
  dirs : List (String × Bool)
  suffix : String
  isSymlink : Bool
  text : Option (List Char)

/-- A file that is scanned. -/
def SourceEntry.isScanned (e : SourceEntry) : Bool :=
  e.dirs.all (fun d => !ignoredDirs.contains d.1 && !d.2) && !ignoredExts.contains e.suffix &&
    !e.isSymlink

/-- `audit_code_secrets`. -/
def auditCodeSecrets (t : CharTables) (entries : List SourceEntry) : List SecretFinding :=
  (entries.filter SourceEntry.isScanned).flatMap fun e =>
    match e.text with
    | none => []
    | some text => auditFile t e.relPath text

end CyberAssess
