import CyberAssess.Findings.Correlator
import CyberAssess.Findings.Redaction

/-!
# Engines — the Dockerfile auditor

`audit_dockerfile_content` of `engines/infra_iac/dockerfile_auditor.py`.

* `startsUpper` is `line_str.upper().startswith(prefix)`.
* `lineFindings` is one round of the loop, `hasNonRootUser` and `hasHealthcheck` are the flags it
  leaves.
* `auditDockerfileContent` is the whole function.

`[about ours]`: of a finding the check, its place and what was observed are kept.
-/

namespace CyberAssess

open Python (isSpace stripChars splitLines words)

namespace DockerfileAuditor

/-- The characters outside ASCII whose `str.upper` has letters of ASCII. -/
def upperTable : List (Char × List Char) :=
  [('ß', ['S', 'S']), ('\u0131', ['I']), ('\u017f', ['S']), ('\u0149', ['\u02bc', 'N']),
    ('\u01f0', ['J', '\u030c']), ('\u1e96', ['H', '\u0331']), ('\u1e97', ['T', '\u0308']),
    ('\u1e98', ['W', '\u030a']), ('\u1e99', ['Y', '\u030a']), ('\u1e9a', ['A', '\u02be']),
    ('\ufb00', ['F', 'F']), ('\ufb01', ['F', 'I']), ('\ufb02', ['F', 'L']), ('\ufb03', ['F', 'F', 'I']),
    ('\ufb04', ['F', 'F', 'L']), ('\ufb05', ['S', 'T']), ('\ufb06', ['S', 'T'])]

/-- `str.upper` of one character, as far as it gives letters of ASCII. -/
def upperChar (c : Char) : List Char := (upperTable.lookup c).getD [c.toUpper]

/-- `line_str.upper().startswith(prefix)`. -/
def startsUpper (start : List Char) (line : List Char) : Bool := start.isPrefixOf (line.flatMap upperChar)

/-- `"FROM "`. -/
def fromStart : List Char := ['F', 'R', 'O', 'M', ' ']

/-- `"USER "`. -/
def userStart : List Char := ['U', 'S', 'E', 'R', ' ']

/-- `from_target`: the line is stripped, so a word follows. -/
def fromTarget (line : List Char) : List Char := (words (stripChars (line.drop 5))).headD []

/-- `":" not in from_target or from_target.endswith(":latest")`. -/
def looksUnpinned (target : List Char) : Bool :=
  !target.contains ':' || [':', 'l', 'a', 't', 'e', 's', 't'].isSuffixOf target

/-- `user_val`, as far as it has letters of ASCII. -/
def userVal (line : List Char) : List Char := (stripChars (line.drop 5)).map Char.toLower

/-- The line names a user that is taken for another than root. -/
def namesNonRoot (line : List Char) : Bool :=
  startsUpper userStart line && userVal line ≠ ['r', 'o', 'o', 't'] && userVal line ≠ ['0']

/-- A line that is looked at. -/
def isLooked (line : List Char) : Bool := line ≠ [] && line.head? ≠ some '#'

/-- `(SECRET|PASSWORD|PASSWD|API_KEY|TOKEN|PRIVATE_KEY)\s*[:=]\s*[^\s]+`. -/
def secretPattern : Regex :=
  .seqs [
    .group 1 (.alt (CharClass.foldLit "SECRET".toList) (.alt (CharClass.foldLit "PASSWORD".toList)
      (.alt (CharClass.foldLit "PASSWD".toList) (.alt (CharClass.foldLit "API_KEY".toList)
        (.alt (CharClass.foldLit "TOKEN".toList) (CharClass.foldLit "PRIVATE_KEY".toList)))))),
    .rep isSpace 0 none true, .one (CharClass.oneOf [':', '=']), .rep isSpace 0 none true,
    .rep (fun c => !isSpace c) 1 none true]

/-- `\bsudo\s+`. -/
def sudoPattern (t : CharTables) : Regex :=
  .seqs [.boundary t.isWord, .lit ['s', 'u', 'd', 'o'], .rep isSpace 1 none true]

/-- What a finding says of the file. -/
structure DockerFinding where
  checkId : String
  location : String
  observedValue : List Char
  lineNumber : Option Nat
deriving DecidableEq, Repr

variable (t : CharTables) (filePath : String)

/-- A finding on a line. -/
def onLine (checkId : String) (lineNum : Nat) (observed : List Char) : DockerFinding where
  checkId := checkId
  location := filePath ++ ":" ++ toString lineNum
  observedValue := observed
  lineNumber := some lineNum

/-- The findings of a stripped line. -/
def lineFindings (lineNum : Nat) (line : List Char) : List DockerFinding :=
  if !isLooked line then []
  else
    (if startsUpper fromStart line && looksUnpinned (fromTarget line) then
      [onLine filePath "IAC-DOCK-002" lineNum line] else []) ++
    (if (startsUpper ['E', 'N', 'V', ' '] line || startsUpper ['A', 'R', 'G', ' '] line) &&
        (secretPattern.search line).isSome then
      [onLine filePath "IAC-DOCK-004" lineNum (maskSecret line)] else []) ++
    (if hasChars "apt-get install".toList line && !hasChars "rm -rf /var/lib/apt/lists".toList line then
      [onLine filePath "IAC-DOCK-005" lineNum (line.take 120)] else []) ++
    (if ((sudoPattern t).search line).isSome && startsUpper ['R', 'U', 'N', ' '] line then
      [onLine filePath "IAC-DOCK-006" lineNum (line.take 120)] else [])

/-- The stripped lines, with their numbers. -/
def numberedLines (content : List Char) : List (List Char × Nat) :=
  ((splitLines content).map stripChars).zipIdx 1

/-- `has_non_root_user`. -/
def hasNonRootUser (content : List Char) : Bool :=
  (numberedLines content).any fun line => isLooked line.1 && namesNonRoot line.1

/-- `has_healthcheck`. -/
def hasHealthcheck (content : List Char) : Bool :=
  (numberedLines content).any fun line => isLooked line.1 && startsUpper "HEALTHCHECK ".toList line.1

/-- `audit_dockerfile_content`. -/
def auditDockerfileContent (content : List Char) : List DockerFinding :=
  (numberedLines content).flatMap (fun line => lineFindings t filePath line.2 line.1) ++
  (if hasNonRootUser content then []
    else
      [{ checkId := "IAC-DOCKER-001"
         location := filePath
         observedValue := "No non-root USER instruction found".toList
         lineNumber := none }]) ++
  (if hasHealthcheck content then []
    else
      [{ checkId := "IAC-DOCK-003"
         location := filePath
         observedValue := "HEALTHCHECK instruction missing".toList
         lineNumber := none }])

end DockerfileAuditor

end CyberAssess
