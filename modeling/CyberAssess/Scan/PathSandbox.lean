import CyberAssess.Support.Checked
import CyberAssess.Support.PosixPath
import CyberAssess.Support.Text

/-!
# Scan — the path sandbox

`core/path_sandbox.py`: which file-system paths a scan may be pointed at.

* `isPathSafe` is the validation; `refusal` is its reason, where it has one.
* `assertSafePath` validates a text and returns the path it resolves to.

`[about ours]`: `FileSystem` holds what is asked of the host: where a spelled path leads, which paths
exist, the home directories and `str.lower`.  Nothing is assumed of it.
-/

namespace CyberAssess

open Python

/-- `FORBIDDEN_POSIX_DIRECTORIES`. -/
def forbiddenPosixDirectories : List String :=
  ["/etc", "/root", "/var/run", "/proc", "/sys", "/dev", "/boot", "/bin", "/sbin", "/usr/bin",
    "/usr/sbin", "/private/etc", "/private/var"]

/-- `FORBIDDEN_WINDOWS_DIRECTORIES`. -/
def forbiddenWindowsDirectories : List String :=
  ["c:\\windows", "c:\\winnt", "c:\\program files", "c:\\program files (x86)", "c:\\programdata",
    "c:\\recovery", "c:\\system volume information"]

/-- `FORBIDDEN_FILE_PATTERNS`. -/
def forbiddenFilePatterns : List String :=
  ["id_rsa", "id_ed25519", "id_dsa", "credentials", ".aws/credentials", ".ssh/authorized_keys",
    ".kube/config", "shadow", "passwd", "sam", "system", "security"]

/-- The sensitive directories of a user. -/
def sensitiveUserDirectories : List String := [".ssh", ".aws", ".kube", ".gnupg"]

/-- What the sandbox asks of the host; a question may raise. -/
structure FileSystem where
  lower : String → String
  /-- `os.path.expanduser("~name")`. -/
  expandUser : String → Except String String
  /-- `Path.resolve`, from the working directory. -/
  resolve : PosixPath → Except String PosixPath
  pathExists : PosixPath → Except String Bool

/-- What a call raises: `PathSandboxViolation`, or what the host raised. -/
inductive PathError where
  | violation (message : String)
  | raised (message : String)
deriving DecidableEq, Repr

variable (fs : FileSystem)

/-! ### Paths -/

/-- `path.expanduser()`. -/
def expanduser (path : PosixPath) : Except String PosixPath :=
  match path.parts with
  | first :: rest =>
      if !path.absolute && first.toList.head? = some '~' then
        (fs.expandUser first).map fun home =>
          let base := PosixPath.ofText home
          ⟨base.absolute, base.parts ++ rest⟩
      else .ok path
  | [] => .ok path

/-- `Path(text).expanduser().resolve()`. -/
def resolveText (text : String) : Except String PosixPath := do
  fs.resolve (← expanduser fs (PosixPath.ofText text))

/-- `str(Path.home()).lower()`. -/
def userHome : Except String String := do
  return fs.lower (← expanduser fs (PosixPath.ofText "~")).text

/-- `os.path.join(home, name)`. -/
def joinPath (home name : String) : String :=
  if home.toList.getLast? = some '/' then home ++ name else home ++ "/" ++ name

/-- `text == directory or text.startswith(directory + separator)`. -/
def within (separator directory text : String) : Bool :=
  text = directory || (directory ++ separator).toList.isPrefixOf text.toList

/-- `text == pattern or text.endswith("/" + pattern)`. -/
def endsIn (pattern text : String) : Bool :=
  text = pattern || ("/" ++ pattern).toList.isSuffixOf text.toList

/-! ### The checks -/

/-- `raw_val.lower().replace("\\", "/")`. -/
def lowerVal (rawVal : String) : String :=
  String.ofList ((fs.lower rawVal).toList.map fun c => if c = '\\' then '/' else c)

/-- A forbidden pattern the text ends in. -/
def sensitiveTarget (rawVal : String) : Option String :=
  (forbiddenFilePatterns.find? fun pattern =>
      endsIn pattern (lowerVal fs rawVal) ||
        ("\\" ++ pattern).toList.isSuffixOf (lowerVal fs rawVal).toList).map fun pattern =>
    s!"Direct access to sensitive credential/system target '{pattern}' is prohibited."

/-- The resolved path lies in a system directory. -/
def inForbidden (directory resolved : String) : Bool := within "/" directory resolved

/-- The same of a Windows directory, with either separator. -/
def inForbiddenWindows (directory resolved : String) : Bool :=
  within "\\" directory resolved || within "/" directory resolved

/-- A system directory the resolved path lies in. -/
def protectedDirectory (rawVal resolvedStr : String) : Option String :=
  ((forbiddenPosixDirectories.find? (inForbidden · resolvedStr)).or
      (forbiddenWindowsDirectories.find? (inForbiddenWindows · resolvedStr))).map fun forbidden =>
    s!"Target path '{rawVal}' resides within protected system directory '{forbidden}'."

/-- A sensitive directory of the user the resolved path lies in. -/
def sensitiveUserDirectory (rawVal resolvedStr : String) : Except String (Option String) := do
  let home ← userHome fs
  return (sensitiveUserDirectories.find? fun name =>
      within "/" (fs.lower (joinPath home name)) resolvedStr).map fun name =>
    s!"Target path '{rawVal}' attempts to access sensitive user directory '{name}'."

/-- One allowed root, resolved if it exists. -/
def resolveRoot (root : PosixPath) : Except String (List PosixPath) := do
  let there ← fs.pathExists root
  if there then (fs.resolve root).map ([·]) else .ok []

/-- `[r.resolve() for r in allowed_roots if r.exists()]`. -/
def resolveRoots : List PosixPath → Except String (List PosixPath)
  | [] => .ok []
  | root :: roots => do
      let first ← resolveRoot fs root
      let rest ← resolveRoots roots
      return first ++ rest

/-- The resolved path lies in none of the allowed roots. -/
def outsideRoots (rawVal : String) (resolved : PosixPath) :
    Option (List PosixPath) → Except String (Option String)
  | none => .ok none
  | some allowedRoots => do
      let resolvedAllowed ← resolveRoots fs allowedRoots
      return if resolvedAllowed = [] then
          some "Configured workspace roots do not exist on the filesystem."
        else if resolvedAllowed.any fun root => resolved = root || resolved.parents.contains root then
          none
        else some s!"Target path '{rawVal}' is outside permitted workspace roots."

/-- The checks of a path that was resolved, in order. -/
def refusalResolved (rawVal : String) (resolved : PosixPath)
    (allowedRoots : Option (List PosixPath)) : Except String (Option String) := do
  let there ← fs.pathExists resolved
  if there then
    match protectedDirectory rawVal (fs.lower resolved.text) with
    | some reason => return some reason
    | none =>
        match ← sensitiveUserDirectory fs rawVal (fs.lower resolved.text) with
        | some reason => return some reason
        | none => outsideRoots fs rawVal resolved allowedRoots
  else return some s!"Target path does not exist on filesystem: '{rawVal}'."

/-- Why a text is not permitted. -/
def refusal (pathStr : String) (allowedRoots : Option (List PosixPath)) :
    Except String (Option String) :=
  if pathStr = "" then .ok (some "Target path cannot be empty.")
  else
    match sensitiveTarget fs (strip pathStr) with
    | some reason => .ok (some reason)
    | none =>
        match resolveText fs (strip pathStr) with
        | .error exc => .ok (some s!"Failed to resolve path '{strip pathStr}': {exc}")
        | .ok resolved => refusalResolved fs (strip pathStr) resolved allowedRoots

/-- `is_path_safe`. -/
def isPathSafe (pathStr : String) (allowedRoots : Option (List PosixPath)) :
    Except String (Bool × Option String) :=
  (refusal fs pathStr allowedRoots).map fun reason => (reason.isNone, reason)

/-- `assert_safe_path`: the text is resolved again, as it was given. -/
def assertSafePath (pathStr : String) (allowedRoots : Option (List PosixPath)) :
    Except PathError PosixPath := do
  let (safe, reason) ← (isPathSafe fs pathStr allowedRoots).mapError .raised
  Checked.ensure safe (.violation (reason.getD "Path sandbox violation."))
  (resolveText fs pathStr).mapError .raised

end CyberAssess
