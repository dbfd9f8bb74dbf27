import CyberAssess.Support.Regex
import CyberAssess.Support.Text

/-!
# Findings — redaction

`mask_secret` and `sanitize_sensitive_text` of `core/models.py`, on characters.

* `maskSecret` shows the first four and the last three characters of a long secret.
* `sanitizeSensitiveText` replaces what looks like a credential, pattern after pattern.

`[about ours]`: the classes of letters and digits of `re` are tables.
-/

namespace CyberAssess

open Python (isSpace stripChars)

/-- `mask_secret`. -/
def maskSecret (cs : List Char) : List Char :=
  let secret := stripChars cs
  if secret.length ≤ 8 then List.replicate secret.length '*'
  else secret.take 4 ++ List.replicate (secret.length - 7) '*' ++ secret.drop (secret.length - 3)

/-- A mask is as long as the secret. -/
theorem maskSecret_length (cs : List Char) : (maskSecret cs).length = (stripChars cs).length := by
  rw [maskSecret]
  split
  · rw [List.length_replicate]
  · simp only [List.length_append, List.length_take, List.length_replicate, List.length_drop]
    omega

theorem maskSecret_length_le (cs : List Char) : (maskSecret cs).length ≤ cs.length := by
  rw [maskSecret_length, stripChars, List.length_reverse]
  exact Nat.le_trans (List.dropWhile_suffix isSpace).length_le
    (by rw [List.length_reverse]; exact (List.dropWhile_suffix isSpace).length_le)

/-- The characters `re` takes for letters and digits, and for digits. -/
structure CharTables where
  isAlnum : Char → Bool
  isDecimal : Char → Bool

namespace CharTables

/-- `\w`. -/
def isWord (t : CharTables) (c : Char) : Bool := t.isAlnum c || c = '_'

end CharTables

/-! ### Classes of characters -/

namespace CharClass

/-- `[0-9]`. -/
def digit (c : Char) : Bool := c.isDigit

/-- `[0-9A-Z]`. -/
def upperOrDigit (c : Char) : Bool := c.isDigit || c.isUpper

/-- `[0-9a-zA-Z]`. -/
def alphanumeric (c : Char) : Bool := c.isAlphanum

/-- One of some characters. -/
def oneOf (chars : List Char) (c : Char) : Bool := chars.contains c

/-- What a letter is under `re.IGNORECASE`: four letters outside ASCII count for ASCII ones. -/
def fold (c : Char) : Char :=
  if c = '\u0130' || c = '\u0131' then 'i'
  else if c = '\u017f' then 's'
  else if c = '\u212a' then 'k'
  else c.toLower

/-- A text, under `re.IGNORECASE`. -/
def foldLit (text : List Char) : Regex :=
  text.foldr (fun c r => .seq (.one fun d => fold d = fold c) r) .eps

end CharClass

/-! ### Redaction -/

namespace Redaction

open CharClass Regex

variable (t : CharTables)

/-- `\b`. -/
def edge : Regex := .boundary t.isWord

/-- One of some words. -/
def oneOfWords : List String → Regex
  | [] => .one fun _ => false
  | [word] => foldLit word.toList
  | word :: words => .alt (foldLit word.toList) (oneOfWords words)

/-- `api[_-]?key`, and the like. -/
def joined (first second : String) : Regex :=
  seqs [foldLit first.toList, opt (.one (oneOf ['_', '-'])), foldLit second.toList]

/-- `[^\s,;}\"']+`. -/
def secretText : Regex :=
  .rep (fun c => !(isSpace c || oneOf [',', ';', '\x7d', '"', '\''] c)) 1 none true

/-- `\s*[:=]\s*`. -/
def separator : Regex :=
  seqs [.rep isSpace 0 none true, .one (oneOf [':', '=']), .rep isSpace 0 none true]

/-- `\bAKIA[0-9A-Z]{16}\b`. -/
def awsKey : Regex :=
  seqs [edge t, lit ['A', 'K', 'I', 'A'], .rep upperOrDigit 16 (some 16) true, edge t]

/-- `\b(?:ghp|github_pat)_[A-Za-z0-9_]+\b`. -/
def githubToken : Regex :=
  seqs [edge t, .alt (lit "ghp".toList) (lit "github_pat".toList), lit ['_'],
    .rep (fun c => alphanumeric c || c = '_') 1 none true, edge t]

/-- `\b(?:sk|pk)_(?:test|live)_[A-Za-z0-9]+\b`. -/
def stripeKey : Regex :=
  seqs [edge t, .alt (lit ['s', 'k']) (lit ['p', 'k']), lit ['_'],
    .alt (lit "test".toList) (lit "live".toList), lit ['_'], .rep alphanumeric 1 none true, edge t]

/-- The assignment of a secret at the start of a text or after a separator. -/
def assignedSecret : Regex :=
  seqs [
    .group 1 (.alt .start (.one fun c => isSpace c || oneOf [',', ';', '\x7b'] c)),
    .group 2 (.alt (oneOfWords ["password", "passwd", "pwd", "secret"])
      (.alt (joined "api" "key") (.alt (joined "access" "token") (.alt (joined "bearer" "token")
        (.alt (oneOfWords ["authorization", "credential"]) (joined "session" "jti")))))),
    separator, .group 3 secretText]

/-- The assignment of a secret under a name that may be quoted. -/
def quotedSecret : Regex :=
  seqs [
    .group 1 (seqs [opt (.one (oneOf ['"', '\''])), edge t,
      .group 2 (.alt (oneOfWords ["password", "passwd", "pwd", "secret"])
        (.alt (joined "api" "key") (.alt (oneOfWords ["token"]) (joined "auth" "token")))),
      edge t, opt (.one (oneOf ['"', '\''])), separator]),
    .group 3 (opt (.one (oneOf ['"', '\'']))), .group 4 secretText, .backref 3]

/-- `(?i)(Bearer\s+)[A-Za-z0-9._~+/=-]+`. -/
def bearerToken : Regex :=
  seqs [.group 1 (seqs [foldLit "Bearer".toList, .rep isSpace 1 none true]),
    .rep (fun c => alphanumeric (fold c) || oneOf ['.', '_', '~', '+', '/', '=', '-'] c) 1 none true]

/-- `(?i)(https?://[^\s/:]+):[^@\s]+@`. -/
def urlPassword : Regex :=
  seqs [
    .group 1 (seqs [foldLit "http".toList, opt (foldLit ['s']), lit "://".toList,
      .rep (fun c => !(isSpace c || c = '/' || c = ':')) 1 none true]),
    lit [':'], .rep (fun c => !(c = '@' || isSpace c)) 1 none true, lit ['@']]

/-- `-----BEGIN [^-]*PRIVATE KEY-----[\s\S]*?-----END [^-]*PRIVATE KEY-----`. -/
def privateKeyBlock : Regex :=
  seqs [lit "-----BEGIN ".toList, .rep (· ≠ '-') 0 none true, lit "PRIVATE KEY-----".toList,
    .rep (fun _ => true) 0 none false, lit "-----END ".toList, .rep (· ≠ '-') 0 none true,
    lit "PRIVATE KEY-----".toList]

/-- A group of a match in a replacement. -/
def ref (found : Found) (n : Nat) : List Char := (found.group n).getD []

/-- `patterns`, with their replacements. -/
def patterns : List (Regex × (Found → List Char)) :=
  [(awsKey t, fun _ => "[REDACTED_AWS_KEY]".toList),
    (githubToken t, fun _ => "[REDACTED_GITHUB_TOKEN]".toList),
    (stripeKey t, fun _ => "[REDACTED_STRIPE_KEY]".toList),
    (assignedSecret, fun found => ref found 1 ++ ref found 2 ++ "=[REDACTED]".toList),
    (quotedSecret t, fun found =>
      ref found 1 ++ ref found 3 ++ "[REDACTED]".toList ++ ref found 3),
    (bearerToken, fun found => ref found 1 ++ "[REDACTED]".toList),
    (urlPassword, fun found => ref found 1 ++ ":[REDACTED]@".toList),
    (privateKeyBlock, fun _ => "[REDACTED_PRIVATE_KEY]".toList)]

end Redaction

/-- `sanitize_sensitive_text`. -/
def sanitizeSensitiveText (t : CharTables) (value : List Char) : List Char :=
  (Redaction.patterns t).foldl (fun text pattern => pattern.1.sub pattern.2 text) (value.take 4096)

end CyberAssess
