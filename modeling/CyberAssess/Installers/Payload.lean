import Mathlib
import CyberAssess.Support.Checked

/-!
# Installers — the payload of a release package

`_extract_rpm_payload` of `installers/nmap_artifact_installer.py`, from the decompressed payload on: a
CPIO archive is read entry by entry, and what belongs to Nmap is written.

* `intHex` is `int(field, 16)` of eight bytes.
* `readEntry` reads the entry at a position, `placeEntry` decides what is written of it.
* `Extraction` is the state of the loop, `Extraction.round` its body, `extractPayload` the whole of it.

`[about ours]`: what is done to the file system is a list of `Effect`s, in order; where the system
refuses one, what was done is a beginning of the list. How a name is decoded is a parameter. `bin` and
`res` are the absolute paths of the two targets, which the server chooses. The check at the end that the
executable is a file is that it was written.
-/

namespace CyberAssess.Payload

open Checked (ensure refuse require)

/-- `bytes`. -/
abbrev Bytes := List UInt8

/-! ### Hexadecimal fields -/

/-- `Py_ISSPACE`. -/
def isSpaceByte (b : UInt8) : Bool := b = 32 || (9 ≤ b && b ≤ 13)

/-- The digits `0-9a-fA-F`. -/
def hexByte (b : UInt8) : Option Nat :=
  if 48 ≤ b && b ≤ 57 then some (b.toNat - 48)
  else if 97 ≤ b && b ≤ 102 then some (b.toNat - 87)
  else if 65 ≤ b && b ≤ 70 then some (b.toNat - 55)
  else none

/-- Digits with single underscores between them; `bare` where a digit has to come next. -/
def hexDigits (bare : Bool) (value : Nat) : Bytes → Option Nat
  | [] => if bare then none else some value
  | b :: bs =>
      match hexByte b with
      | some digit => hexDigits false (16 * value + digit) bs
      | none => if b = 95 && !bare then hexDigits true value bs else none

/-- What follows the sign: a prefix `0x` may be followed by an underscore. -/
def hexUnsigned : Bytes → Option Nat
  | 48 :: 120 :: 95 :: bs | 48 :: 88 :: 95 :: bs | 48 :: 120 :: bs | 48 :: 88 :: bs => hexDigits true 0 bs
  | bs => hexDigits true 0 bs

/-- `int(field, 16)`. -/
def intHex (field : Bytes) : Option Int :=
  match (field.dropWhile isSpaceByte).rdropWhile isSpaceByte with
  | 43 :: bs => (hexUnsigned bs).map Int.ofNat
  | 45 :: bs => (hexUnsigned bs).map fun n => -Int.ofNat n
  | bs => (hexUnsigned bs).map Int.ofNat

/-! ### Entries -/

/-- `_CPIO_MAX_NAMESIZE`. -/
def cpioMaxNamesize : Nat := 4096

/-- `_CPIO_MAX_FILESIZE`. -/
def cpioMaxFilesize : Nat := 100 * 1024 * 1024

/-- `_CPIO_MAX_ENTRIES`. -/
def cpioMaxEntries : Nat := 8192

/-- `data[start:start + length]`. -/
def slice (data : Bytes) (start length : Nat) : Bytes := (data.drop start).take length

/-- The next position that four divides. -/
def aligned (pos : Nat) : Nat := if pos % 4 = 0 then pos else pos + (4 - pos % 4)

/-- An entry, and where the next one begins. -/
structure RawEntry where
  mode : Int
  nlink : Int
  name : List Char
  content : Bytes
  next : Nat

/-- The four fields that are read. The one called `nlink` is that of the owner. -/
def headerFields (data : Bytes) (pos : Nat) : Option (Int × Int × Int × Int) := do
  let mode ← intHex (slice data (pos + 14) 8)
  let nlink ← intHex (slice data (pos + 22) 8)
  let filesize ← intHex (slice data (pos + 54) 8)
  let namesize ← intHex (slice data (pos + 94) 8)
  return (mode, nlink, filesize, namesize)

/-- `"TRAILER!!!" in raw_name`. -/
def isTrailer (name : List Char) : Bool := decide ("TRAILER!!!".toList <:+: name)

section Decoded

variable (decode : Bytes → List Char)

/-- The entry at a position; there is none after the trailer. -/
def readEntry (data : Bytes) (pos : Nat) : Except String (Option RawEntry) := do
  let (mode, nlink, filesize, namesize) ← require (headerFields data pos)
    "CPIO header field is not valid hex — malformed package"
  ensure (1 ≤ namesize ∧ namesize ≤ cpioMaxNamesize)
    ("CPIO namesize out of bounds: " ++ toString namesize)
  ensure (0 ≤ filesize ∧ filesize ≤ cpioMaxFilesize)
    ("CPIO filesize out of bounds: " ++ toString filesize)
  ensure (pos + 110 + namesize.toNat ≤ data.length)
    "CPIO entry name extends beyond payload boundary"
  let name := decode (slice data (pos + 110) (namesize.toNat - 1))
  if isTrailer name then return none
  let start := aligned (pos + 110 + namesize.toNat)
  ensure (start + filesize.toNat ≤ data.length) "CPIO entry data extends beyond payload boundary"
  return some ⟨mode, nlink, name, slice data start filesize.toNat, aligned (start + filesize.toNat)⟩

/-! ### Where entries go -/

/-- An absolute path without empty components and `.`; `doubled` where its text has two slashes first. -/
structure AbsPath where
  doubled : Bool
  parts : List (List Char)
  deriving DecidableEq

/-- The path that contains it. -/
def AbsPath.dirname (p : AbsPath) : AbsPath := { p with parts := p.parts.dropLast }

/-- What is done to the file system. -/
inductive Effect where
  | makedirs (path : AbsPath)
  | write (path : AbsPath) (content : Bytes)
  | chmod (path : AbsPath) (mode : Nat)

/-- The executable and the directory of the resources, which it is not in. -/
structure Targets where
  bin : AbsPath
  res : AbsPath
  apart : ¬ res.parts <+: bin.parts

/-- The components of a text that a normalized path keeps. -/
def components (text : List Char) : List (List Char) :=
  (text.splitOn '/').filter fun part => part ≠ [] ∧ part ≠ ['.']

/-- `abspath(normpath(join(target_resources, rel_path)))`, of a text without `..`. -/
def destination (res : AbsPath) (relPath : List Char) : AbsPath :=
  if relPath.head? = some '/' then
    ⟨['/', '/'] <+: relPath ∧ ¬ ['/', '/', '/'] <+: relPath, components relPath⟩
  else ⟨res.doubled, res.parts ++ components relPath⟩

/-- `IS_DIR`. -/
def isDir : Nat := 0o040000

/-- `IS_REG`. -/
def isReg : Nat := 0o100000

/-- `IS_SYMLINK`. -/
def isSymlink : Nat := 0o120000

/-- `mode & bits`, of the low sixteen bits. -/
def masked (mode : Int) (bits : Nat) : Nat := (mode % 65536).toNat &&& bits

/-- `".." in text.split("/")`. -/
def hasDots (text : List Char) : Bool := (text.splitOn '/').any (· == ['.', '.'])

/-- The name between slashes, without a first `./`. -/
def cleanName (raw : List Char) : Except String (List Char) := do
  let norm := raw.map fun c => if c = '\\' then '/' else c
  refuse (norm.head? = some '/') ("CPIO absolute path rejected: " ++ String.ofList raw)
  refuse (hasDots norm)
    ("CPIO path traversal sequence rejected: " ++ String.ofList raw)
  let clean := if ['.', '/'] <+: norm then norm.drop 2 else norm
  refuse (clean.head? = some '/' || hasDots clean)
    ("CPIO path traversal sequence rejected: " ++ String.ofList raw)
  return clean

/-- `usr/share/nmap/`. -/
def resourcePrefix : List Char := "usr/share/nmap".toList ++ ['/']

/-- What is done for an entry of the resources. -/
def placeResource (t : Targets) (written : List AbsPath) (e : RawEntry) (relPath : List Char) :
    Except String (List Effect) := do
  if relPath = [] then return []
  let dest := destination t.res relPath
  ensure (t.res.parts <+: dest.parts) ("CPIO path traversal detected: " ++ String.ofList e.name)
  if masked e.mode 0o170000 = isDir then return [.makedirs dest]
  if e.content = [] then return []
  refuse (dest ∈ written) ("CPIO duplicate path rejected: " ++ String.ofList relPath)
  return [.makedirs dest.dirname, .write dest e.content] ++
    if masked e.mode 0o111 ≠ 0 then [.chmod dest 0o755] else []

/-- What is done for an entry. -/
def placeEntry (t : Targets) (written : List AbsPath) (e : RawEntry) : Except String (List Effect) := do
  let ftype := masked e.mode 0o170000
  refuse (ftype = isSymlink) ("CPIO entry is a symlink — rejected: " ++ String.ofList e.name)
  refuse (ftype = isReg ∧ 1 < e.nlink ∧ e.content ≠ [])
    ("CPIO entry is a hardlink — rejected: " ++ String.ofList e.name)
  if ftype ≠ isDir ∧ ftype ≠ isReg then return []
  let clean ← cleanName e.name
  if clean = "usr/bin/nmap".toList ∧ ftype = isReg then
    refuse (t.bin ∈ written) "CPIO duplicate entry for nmap binary — rejected"
    return [.write t.bin e.content, .chmod t.bin 0o755]
  if resourcePrefix <+: clean then placeResource t written e (clean.drop resourcePrefix.length)
  else return []

/-! ### The loop -/

/-- The path a file is written to. -/
def Effect.written : Effect → Option AbsPath
  | .write path _ => some path
  | _ => none

/-- The variables of the loop, and what has been done. -/
structure Extraction where
  pos : Nat
  entryCount : Nat
  effects : List Effect

/-- `written_paths`. -/
def Extraction.writtenPaths (x : Extraction) : List AbsPath := x.effects.filterMap Effect.written

/-- What a round of the loop comes to. -/
inductive Round where
  | ends
  | raises (error : String)
  | goes (x : Extraction)

/-- What is done after an entry has been read. -/
def Extraction.take (t : Targets) (x : Extraction) (e : RawEntry) : Except String Extraction := do
  ensure (x.entryCount + 1 ≤ cpioMaxEntries) "CPIO entry count exceeds maximum permitted limit"
  let effects ← placeEntry t x.writtenPaths e
  return ⟨e.next, x.entryCount + 1, x.effects ++ effects⟩

/-- `070701`, `070702`. -/
def magics : List Bytes := [[48, 55, 48, 55, 48, 49], [48, 55, 48, 55, 48, 50]]

/-- The body of the loop. -/
def Extraction.round (t : Targets) (data : Bytes) (x : Extraction) : Round :=
  if data.length ≤ x.pos + 110 then .ends
  else if slice data x.pos 6 ∉ magics then .ends
  else
    match readEntry decode data x.pos with
    | .error e => .raises e
    | .ok none => .ends
    | .ok (some e) =>
        match x.take t e with
        | .error e => .raises e
        | .ok y => .goes y

/-- Rounds, as many as are allowed. -/
def Extraction.rounds (t : Targets) (data : Bytes) : Nat → Extraction → Option String × Extraction
  | 0, x => (none, x)
  | n + 1, x =>
      match x.round decode t data with
      | .ends => (none, x)
      | .raises e => (some e, x)
      | .goes y => Extraction.rounds t data n y

/-- Before the loop. -/
def Extraction.start (t : Targets) : Extraction := ⟨0, 0, [.makedirs t.bin.dirname, .makedirs t.res]⟩

/-- `_extract_rpm_payload`, of a decompressed payload: the error it raises, and what it has done. -/
def extractPayload (t : Targets) (data : Bytes) : Option String × Extraction :=
  match (Extraction.start t).rounds decode t data data.length with
  | (some e, x) => (some e, x)
  | (none, x) =>
      if t.bin ∈ x.writtenPaths then (none, x)
      else (some "RPM extraction failed: 'usr/bin/nmap' not found in package payload", x)

end Decoded

end CyberAssess.Payload
