import CyberAssess.Support.Checked
import CyberAssess.Support.FileTree

/-!
# Trust — digests and manifests of managed trees

What `core/template_trust.py` and `core/binary_trust.py` keep of a directory, and how they compare it.

* `treeDigest` is one digest of all files, `imageTemplateRecord` what the image keeps of a template set
  and `verifyManagedNucleiTemplates` the check of it.
* `buildResourceManifest` lists the digest of every file, `verifyResourceManifest` is its check.

`[about ours]`: names of files are UTF-8, and an exception is a text. `Root` is what is found at the
directory's own path.
-/

namespace CyberAssess.Trust

open Python FileTree
open Checked (ensure refuse)

/-- What is at the path of a directory. -/
inductive Root where
  | absent
  | link
  | tree (t : Tree)

section Hashed

variable (sha256 : List UInt8 → Digest)

/-! ### The template set -/

/-- `NUCLEI_TEMPLATES_COMMIT`. -/
def nucleiTemplatesCommit : String := "83234ce456da3e90dda86dfbc5e605e64a846df3"

/-- `NUCLEI_TEMPLATES_ARCHIVE_SHA256`. -/
def nucleiTemplatesArchiveSha256 : String :=
  "5b22a097bf0b828377574a82b98b4ed0d1227b4aae3ff6e3bedf97272e70ccc6"

/-- What one entry adds to the digest. -/
def digestPiece (e : RelPath × Entry) : Except String (List UInt8) :=
  match e.2 with
  | .link _ | .special => .error "managed Nuclei template tree contains a non-regular file"
  | .unreadable => .error "PermissionError"
  | .directory => .ok []
  | .file content => .ok (utf8 e.1.asPosix ++ 0 :: ((sha256 content).bytes ++ [0]))

/-- `_tree_digest`. -/
def treeDigest (t : Tree) : Except String Digest := do
  let pieces ← t.sortedEntries.mapM (digestPiece sha256)
  .ok (sha256 pieces.flatten)

/-- The record that the image keeps of its templates: of links and the like it takes no notice. -/
def imageTemplateRecord (t : Tree) : Except String (List (String × Json)) := do
  ensure (t.entries.all fun e => e.2 ≠ .unreadable) "PermissionError"
  .ok [("archive_sha256", .str nucleiTemplatesArchiveSha256),
    ("source_commit", .str nucleiTemplatesCommit),
    ("template_tree_sha256", .str (sha256 (framed sha256 t.sortedFiles)).hex),
    ("trust_status", .str "VALID")]

/-- `record.get(key) == text`. -/
def states (record : List (String × Json)) (key text : String) : Bool :=
  match Json.get? key record with
  | some (.str s) => s = text
  | _ => false

/-- `verify_managed_nuclei_templates`, by what is at the directory and what is read from the record. -/
def verifyManagedNucleiTemplates (root : Option Tree) (record : Except String Json) : Bool :=
  match root, record with
  | some t, .ok (.obj members) =>
      states members "source_commit" nucleiTemplatesCommit &&
        states members "archive_sha256" nucleiTemplatesArchiveSha256 &&
        states members "trust_status" "VALID" &&
        match treeDigest sha256 t with
        | .ok d => states members "template_tree_sha256" d.hex
        | .error _ => false
  | _, _ => false

/-! ### Resource manifests -/

/-- `_MAX_RESOURCE_MANIFEST_ENTRIES`. -/
def maxResourceManifestEntries : Nat := 4096

/-- The digest of each file under its path. -/
abbrev Manifest := List (String × String)

/-- One entry of `build_resource_manifest`, below a directory with the path `dir`. -/
def manifestEntry (dir : String) (e : RelPath × Entry) : Except String Manifest :=
  match e.2 with
  | .link _ => .error ("symlinks are forbidden in resource tree: " ++ dir ++ "/" ++ e.1.asPosix)
  | .special =>
      .error ("non-regular file forbidden in resource tree: " ++ dir ++ "/" ++ e.1.asPosix)
  | .unreadable => .error "PermissionError"
  | .directory => .ok []
  | .file content => .ok [(e.1.asPosix, (sha256 content).hex)]

/-- The loop over entries, after so many. -/
def manifestLoop (dir : String) : Nat → List (RelPath × Entry) → Except String Manifest
  | _, [] => .ok []
  | seen, e :: entries => do
      ensure (seen + 1 ≤ maxResourceManifestEntries)
        "resource tree exceeds maximum permitted entry count"
      let part ← manifestEntry sha256 dir e
      let rest ← manifestLoop dir (seen + 1) entries
      .ok (part ++ rest)

/-- `build_resource_manifest`. -/
def buildResourceManifest (dir : String) : Root → Except String Manifest
  | .link => .error "resource directory must not be a symlink"
  | .absent => .error "resource directory does not exist or is not a directory"
  | .tree t => do
      let manifest ← manifestLoop sha256 dir 0 t.sortedEntries
      .ok (sortedBy (·.1) manifest)

/-- `verify_resource_manifest`; the manifest is `none` where the record holds no mapping to texts. -/
def verifyResourceManifest (dir : String) (root : Root) (manifest : Option Manifest) : Bool :=
  match root, manifest with
  | .tree t, some stored =>
      stored.length ≤ maxResourceManifestEntries &&
        match manifestLoop sha256 dir 0 t.entries with
        | .ok actual => sortedBy (·.1) actual = sortedBy (·.1) stored
        | .error _ => false
  | _, _ => false

end Hashed

end CyberAssess.Trust
