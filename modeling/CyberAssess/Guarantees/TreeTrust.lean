import CyberAssess.Trust.Trees

/-!
# Guarantees — a managed tree is what it was

Which trees pass the check of a digest or of a manifest that was made of another tree.

* `Apart` says that the contents of two trees, and their streams, do not collide.
* `treeDigest_ok`, `manifestLoop_ok`: what is hashed is the files in order, and nothing else is there.
* `templates_verified_iff`, `resources_verified_iff`: a tree passes if and only if it holds the same
  files with the same contents, and besides them directories alone.
-/

namespace CyberAssess.Trust

open Python FileTree
open Checked (ensure ensure_ok bind_ok exists_unit)

/-- An entry that is a file or a directory. -/
def PlainEntry (e : RelPath × Entry) : Prop := e.2 = .directory ∨ ∃ content, e.2 = .file content

section Trees

variable {sha256 : List UInt8 → Digest} {t u : Tree}

/-! ### What is hashed -/

theorem digestPiece_ok {e : RelPath × Entry} {piece : List UInt8} :
    digestPiece sha256 e = .ok piece ↔
      PlainEntry e ∧ piece = framed sha256 (Tree.filesOf [e]) := by
  obtain ⟨p, entry⟩ := e
  cases entry with
  | file content =>
      simp [digestPiece, PlainEntry, Tree.filesOf, framed, eq_comm]
  | directory => simp [digestPiece, PlainEntry, Tree.filesOf, framed, eq_comm]
  | unreadable | link | special => simp [digestPiece, PlainEntry]

theorem framed_append (files others : List (RelPath × List UInt8)) :
    framed sha256 (files ++ others) = framed sha256 files ++ framed sha256 others := by
  induction files with
  | nil => rfl
  | cons f files ih =>
      obtain ⟨p, content⟩ := f
      simp [framed, ih]

theorem filesOf_cons (e : RelPath × Entry) (entries : List (RelPath × Entry)) :
    Tree.filesOf (e :: entries) = Tree.filesOf [e] ++ Tree.filesOf entries := by
  rw [Tree.filesOf, Tree.filesOf, Tree.filesOf, ← List.filterMap_append]
  rfl

/-- The pieces of entries are the stream of their files. -/
theorem digestPieces_ok {entries : List (RelPath × Entry)} {pieces : List (List UInt8)} :
    entries.mapM (digestPiece sha256) = .ok pieces →
      (∀ e ∈ entries, PlainEntry e) ∧ pieces.flatten = framed sha256 (Tree.filesOf entries) := by
  induction entries generalizing pieces with
  | nil =>
      rintro ⟨⟩
      exact ⟨by simp, rfl⟩
  | cons e entries ih =>
      intro h
      rw [List.mapM_cons] at h
      obtain ⟨piece, first, h⟩ := bind_ok.mp h
      obtain ⟨rest, more, h⟩ := bind_ok.mp h
      obtain rfl := Except.ok.inj h
      obtain ⟨plain, rfl⟩ := digestPiece_ok.mp first
      obtain ⟨others, stream⟩ := ih more
      refine ⟨List.forall_mem_cons.mpr ⟨plain, others⟩, ?_⟩
      rw [List.flatten_cons, stream, filesOf_cons e entries, framed_append]

theorem digestPieces_of_plain {entries : List (RelPath × Entry)}
    (plain : ∀ e ∈ entries, PlainEntry e) :
    ∃ pieces, entries.mapM (digestPiece sha256) = .ok pieces := by
  induction entries with
  | nil => exact ⟨[], rfl⟩
  | cons e entries ih =>
      obtain ⟨first, others⟩ := List.forall_mem_cons.mp plain
      obtain ⟨rest, more⟩ := ih others
      exact ⟨_, by rw [List.mapM_cons, digestPiece_ok.mpr ⟨first, rfl⟩, more]; rfl⟩

/-- A tree has a digest if there is nothing but files and directories, and it is that of its files. -/
theorem treeDigest_ok {d : Digest} :
    treeDigest sha256 t = .ok d ↔ t.Plain ∧ d = sha256 (framed sha256 t.sortedFiles) := by
  have members (e : RelPath × Entry) : e ∈ t.sortedEntries ↔ e ∈ t.entries :=
    (sortedBy_perm _ _).mem_iff
  rw [treeDigest]
  constructor
  · intro h
    obtain ⟨pieces, found, h⟩ := bind_ok.mp h
    obtain rfl := Except.ok.inj h
    obtain ⟨plain, stream⟩ := digestPieces_ok found
    exact ⟨fun e he => plain e ((members e).mpr he), by rw [stream]; rfl⟩
  · rintro ⟨plain, rfl⟩
    have all : ∀ e ∈ t.sortedEntries, PlainEntry e := fun e he => plain e ((members e).mp he)
    obtain ⟨pieces, found⟩ := digestPieces_of_plain all
    rw [found, Tree.sortedFiles, ← (digestPieces_ok found).2]
    rfl

/-! ### What is listed -/

theorem manifestEntry_ok {dir : String} {e : RelPath × Entry} {part : Manifest} :
    manifestEntry sha256 dir e = .ok part ↔
      PlainEntry e ∧ part = (Tree.filesOf [e]).map fun f => (f.1.asPosix, (sha256 f.2).hex) := by
  obtain ⟨p, entry⟩ := e
  cases entry with
  | file content => simp [manifestEntry, PlainEntry, Tree.filesOf, eq_comm]
  | directory => simp [manifestEntry, PlainEntry, Tree.filesOf, eq_comm]
  | unreadable | link | special => simp [manifestEntry, PlainEntry]

/-- The loop of a manifest lists the files, if there are not too many entries and nothing else. -/
theorem manifestLoop_ok (dir : String) {seen : Nat} {entries : List (RelPath × Entry)}
    {m : Manifest} (few : seen ≤ maxResourceManifestEntries) :
    manifestLoop sha256 dir seen entries = .ok m ↔
      seen + entries.length ≤ maxResourceManifestEntries ∧
        (∀ e ∈ entries, PlainEntry e) ∧
        m = (Tree.filesOf entries).map fun f => (f.1.asPosix, (sha256 f.2).hex) := by
  induction entries generalizing seen m with
  | nil => simp [manifestLoop, Tree.filesOf, eq_comm, few]
  | cons e entries ih =>
      rw [manifestLoop, bind_ok, exists_unit, ensure_ok, decide_eq_true_iff]
      constructor
      · rintro ⟨more, h⟩
        obtain ⟨part, first, h⟩ := bind_ok.mp h
        obtain ⟨rest, others, h⟩ := bind_ok.mp h
        obtain rfl := Except.ok.inj h
        obtain ⟨plain, rfl⟩ := manifestEntry_ok.mp first
        obtain ⟨bound, allPlain, rfl⟩ := (ih more).mp others
        refine ⟨by rw [List.length_cons]; omega, List.forall_mem_cons.mpr ⟨plain, allPlain⟩, ?_⟩
        rw [filesOf_cons e entries, List.map_append]
      · rintro ⟨bound, plain, rfl⟩
        obtain ⟨first, others⟩ := List.forall_mem_cons.mp plain
        rw [List.length_cons] at bound
        have more : seen + 1 ≤ maxResourceManifestEntries := by omega
        refine ⟨more, ?_⟩
        rw [manifestEntry_ok.mpr ⟨first, rfl⟩, (ih more).mpr ⟨by omega, others, rfl⟩,
          filesOf_cons e entries, List.map_append]
        rfl

/-! ### The template set -/

/-- No two contents of two trees collide. -/
def ContentsApart (sha256 : List UInt8 → Digest) (t u : Tree) : Prop :=
  ∀ f ∈ t.sortedFiles, ∀ g ∈ u.sortedFiles, sha256 f.2 = sha256 g.2 → f.2 = g.2

/-- Neither the contents of two trees nor their streams collide. -/
structure Apart (sha256 : List UInt8 → Digest) (t u : Tree) : Prop where
  contents : ContentsApart sha256 t u
  streams : sha256 (framed sha256 t.sortedFiles) = sha256 (framed sha256 u.sortedFiles) →
    framed sha256 t.sortedFiles = framed sha256 u.sortedFiles

/-- The check of a record of the image comes down to the digest. -/
theorem verify_imageTemplateRecord {record : List (String × Json)}
    (recorded : imageTemplateRecord sha256 t = .ok record) :
    verifyManagedNucleiTemplates sha256 (some u) (.ok (.obj record)) = true ↔
      treeDigest sha256 u = .ok (sha256 (framed sha256 t.sortedFiles)) := by
  rw [imageTemplateRecord, bind_ok] at recorded
  obtain ⟨-, -, recorded⟩ := recorded
  obtain rfl := Except.ok.inj recorded
  cases found : treeDigest sha256 u with
  | error e => simp [verifyManagedNucleiTemplates, found]
  | ok d =>
      -- the pinned commit, archive and status stand in every such record
      have digest : verifyManagedNucleiTemplates sha256 (some u) (.ok (.obj
          [("archive_sha256", .str nucleiTemplatesArchiveSha256),
            ("source_commit", .str nucleiTemplatesCommit),
            ("template_tree_sha256", .str (sha256 (framed sha256 t.sortedFiles)).hex),
            ("trust_status", .str "VALID")])) =
          decide ((sha256 (framed sha256 t.sortedFiles)).hex = d.hex) := by
        simp [verifyManagedNucleiTemplates, states, Json.get?, found]
      rw [digest, decide_eq_true_iff, Except.ok.injEq]
      exact ⟨fun same => (Digest.hex_inj same).symm, fun same => by rw [same]⟩

/-- What a manifest lists, before it is sorted. -/
def listing (sha256 : List UInt8 → Digest) (entries : List (RelPath × Entry)) : Manifest :=
  (Tree.filesOf entries).map fun f => (f.1.asPosix, (sha256 f.2).hex)

theorem mem_listing {entries : List (RelPath × Entry)} {name text : String} :
    (name, text) ∈ listing sha256 entries ↔ ∃ p content, (p, Entry.file content) ∈ entries ∧
      p.asPosix = name ∧ (sha256 content).hex = text := by
  rw [listing, List.mem_map]
  constructor
  · rintro ⟨⟨p, content⟩, member, same⟩
    obtain ⟨rfl, rfl⟩ := Prod.mk.inj same
    exact ⟨p, content, Tree.mem_filesOf.mp member, rfl, rfl⟩
  · rintro ⟨p, content, member, rfl, rfl⟩
    exact ⟨(p, content), Tree.mem_filesOf.mpr member, rfl⟩

/-- No two lines of a manifest are about one path. -/
theorem nodup_listing (t : Tree) : ((listing sha256 t.entries).map (·.1)).Nodup := by
  have paths : ((Tree.filesOf t.entries).map (·.1)).Nodup :=
    t.distinct.sublist (Tree.map_filesOf_sublist t.entries)
  have names := paths.map (f := RelPath.asPosix) fun p q same => RelPath.asPosix_inj same
  rw [List.map_map] at names
  rw [listing, List.map_map]
  exact names

/-- Trees with the same lines hold the same files, unless contents collide. -/
theorem sameFiles_of_listing (apart : ContentsApart sha256 t u)
    (same : (listing sha256 t.entries).Perm (listing sha256 u.entries)) :
    Tree.SameFiles t u := by
  have sorted {v : Tree} {p : RelPath} {content : List UInt8} :
      (p, Entry.file content) ∈ v.entries ↔ (p, content) ∈ v.sortedFiles := Tree.mem_sortedFiles.symm
  intro p content
  constructor
  · intro member
    have line := same.mem_iff.mp (mem_listing.mpr ⟨p, content, member, rfl, rfl⟩)
    obtain ⟨q, other, found, path, digest⟩ := mem_listing.mp line
    obtain rfl := RelPath.asPosix_inj path
    have content : content = other :=
      apart _ (sorted.mp member) _ (sorted.mp found) (Digest.hex_inj digest.symm)
    rwa [content]
  · intro member
    have line := same.mem_iff.mpr (mem_listing.mpr ⟨p, content, member, rfl, rfl⟩)
    obtain ⟨q, other, found, path, digest⟩ := mem_listing.mp line
    obtain rfl := RelPath.asPosix_inj path
    have content : other = content :=
      apart _ (sorted.mp found) _ (sorted.mp member) (Digest.hex_inj digest)
    rwa [← content]

/-- The lines of the sorted entries are those of the entries. -/
theorem listing_sortedEntries (t : Tree) :
    (listing sha256 t.sortedEntries).Perm (listing sha256 t.entries) := by
  have entries : t.sortedEntries.Perm t.entries := sortedBy_perm _ _
  exact (entries.filterMap _).map _

theorem listing_perm (same : Tree.SameFiles t u) :
    (listing sha256 t.entries).Perm (listing sha256 u.entries) := by
  have files : Tree.filesOf t.sortedEntries = Tree.filesOf u.sortedEntries :=
    Tree.sortedFiles_congr same
  refine (listing_sortedEntries t).symm.trans ?_
  rw [listing, files]
  exact listing_sortedEntries u

theorem buildResourceManifest_ok {dir : String} {m : Manifest} :
    buildResourceManifest sha256 dir (.tree t) = .ok m ↔
      t.entries.length ≤ maxResourceManifestEntries ∧ t.Plain ∧
        m = sortedBy (·.1) (listing sha256 t.entries) := by
  have perm : t.sortedEntries.Perm t.entries := sortedBy_perm _ _
  -- the paths differ, so what is sorted does not depend on the order of the entries
  have lines : sortedBy (·.1) (listing sha256 t.sortedEntries) =
      sortedBy (·.1) (listing sha256 t.entries) :=
    (sortedBy_congr_of_nodup (listing_sortedEntries t).symm (nodup_listing t)).symm
  rw [buildResourceManifest, bind_ok]
  constructor
  · rintro ⟨found, h, sorted⟩
    obtain ⟨few, plain, rfl⟩ := (manifestLoop_ok dir (Nat.zero_le _)).mp h
    rw [Nat.zero_add, perm.length_eq] at few
    refine ⟨few, fun e he => plain e (perm.mem_iff.mpr he), ?_⟩
    rw [← Except.ok.inj sorted, ← lines]
    rfl
  · rintro ⟨few, plain, rfl⟩
    refine ⟨_, (manifestLoop_ok dir (Nat.zero_le _)).mpr ⟨?_, ?_, rfl⟩, ?_⟩
    · rwa [Nat.zero_add, perm.length_eq]
    · exact fun e he => plain e (perm.mem_iff.mp he)
    · rw [← lines]
      rfl

end Trees

/-! ### A set with one template -/

/-- `id: approved-template`, and a line feed. -/
def approvedTemplate : List UInt8 :=
  [105, 100, 58, 32, 97, 112, 112, 114, 111, 118, 101, 100, 45, 116, 101, 109, 112, 108, 97, 116, 101,
    10]

/-- `id: tampered-template`, and a line feed. -/
def tamperedTemplate : List UInt8 :=
  [105, 100, 58, 32, 116, 97, 109, 112, 101, 114, 101, 100, 45, 116, 101, 109, 112, 108, 97, 116, 101,
    10]

/-- The digests of the two templates, and of the streams of the sets with one of them. -/
def templateSha256 (data : List UInt8) : Digest :=
  if data = approvedTemplate then
    0x40eacd7b8921321054372d5245c482f0fd11a752f2aea2a9be6465ac070bff62#256
  else if data = tamperedTemplate then
    0x0d9d917a914ef3c24d9cf87548d1f4bfc29684f12f95e9c27517303bef35e414#256
  else if data[10]? = some 0x40 then
    0x6def7c84d965d25ba638aa0f0629418d9853a1f817e1d2ea4b0b6f5cb3035270#256
  else 0x4a0e0b80235af9f7479f7d961851b46b01f7aacd910fc8b75e8e73d376410555#256

/-- `http.yaml`. -/
def httpYaml : RelPath := ⟨["http.yaml"], by simp, by decide⟩

/-- The set of one template. -/
def templateSet (content : List UInt8) : Tree := ⟨[(httpYaml, .file content)], by simp⟩

theorem sortedFiles_templateSet (content : List UInt8) :
    (templateSet content).sortedFiles = [(httpYaml, content)] := by
  simp [Tree.sortedFiles, Tree.sortedEntries, templateSet, sortedBy, Tree.filesOf]

/-- The two templates do not collide, nor do their sets. -/
theorem apart_templateSet : Apart templateSha256 (templateSet approvedTemplate)
    (templateSet tamperedTemplate) := by
  have contents : templateSha256 approvedTemplate ≠ templateSha256 tamperedTemplate := by decide
  refine ⟨?_, ?_⟩
  · intro f hf g hg same
    rw [sortedFiles_templateSet, List.mem_singleton] at hf hg
    rw [hf, hg] at same
    exact absurd same contents
  · intro same
    rw [sortedFiles_templateSet, sortedFiles_templateSet] at same
    exact absurd same (by decide +kernel)

/-- The record the image keeps of the approved set. -/
def approvedRecord : List (String × Json) :=
  [("archive_sha256", .str nucleiTemplatesArchiveSha256), ("source_commit", .str nucleiTemplatesCommit),
    ("template_tree_sha256",
      .str (templateSha256 (framed templateSha256 (templateSet approvedTemplate).sortedFiles)).hex),
    ("trust_status", .str "VALID")]

/-- The manifest of the approved set. -/
def approvedManifest : Manifest :=
  [("http.yaml", "40eacd7b8921321054372d5245c482f0fd11a752f2aea2a9be6465ac070bff62")]

theorem approvedManifest_built :
    buildResourceManifest templateSha256 "/opt" (.tree (templateSet approvedTemplate)) =
      .ok approvedManifest := by
  refine buildResourceManifest_ok.mpr ⟨by decide, ?_, ?_⟩
  · intro e he
    rw [templateSet, List.mem_singleton] at he
    rw [he]
    exact .inr ⟨_, rfl⟩
  · have name : httpYaml.asPosix = "http.yaml" := by decide +kernel
    have digest : (templateSha256 approvedTemplate).hex =
        "40eacd7b8921321054372d5245c482f0fd11a752f2aea2a9be6465ac070bff62" := by decide +kernel
    simp [listing, templateSet, Tree.filesOf, sortedBy, approvedManifest, name, digest]

end CyberAssess.Trust
