import KnowledgeCore.Sync.AutoMerge

/-!
# What a pull applies

A head names a snapshot and the hash of its manifest, and a manifest lists the files of a
snapshot with their hashes. A pull follows the first link of this chain: it applies the content
that the target stores under the snapshot the head names. It does not look at the others, so
the content it applies is bound to the head where the content of the target is.
-/

namespace KnowledgeCore

namespace Sync

variable {ext : Externals} {host : Host} {s : Site} {target : String} {nowMs : Int64}

/-- Whether a manifest lists a file with a hash, as the database or among the objects. -/
def ListsFile (manifest : Json) (path : RelPath) (hash : String) : Prop :=
  (∃ db, manifest.get "db" = some db
      ∧ db.get "relative_path" = some (.str (Export.renderPath path))
      ∧ db.get "hash" = some (.str hash))
    ∨ ∃ objects entry, manifest.get "objects" = some (.arr objects) ∧ entry ∈ objects
      ∧ entry.get "relative_path" = some (.str (Export.renderPath path))
      ∧ entry.get "storage_hash" = some (.str hash)

/-- Whether a path lies in the database tree or in the store. -/
def Vouched (path : RelPath) : Prop :=
  Dir.under TopDir.db.path path = true ∨ Dir.under TopDir.store.path path = true

/-- Whether a snapshot is bound to a head: its manifest has the hash the head gives, and lists
the files of the database tree and of the store with their hashes. -/
def Binds (ext : Externals) (head : SyncHeadV1) (src : Dir Content) : Prop :=
  ∃ content manifest, src.get Export.manifestPath = some content
    ∧ blake3HexPrefixed ext content = head.manifestHash
    ∧ content.parseJson = .ok manifest
    ∧ ∀ path file, Vouched path → src.get path = some file →
      ListsFile manifest path (blake3HexPrefixed ext file)

/-- A vault after the trees of a snapshot have been applied to it. The database file is the one
file that is not a copy: it has been opened, and holds the entries of the one it was copied
from. -/
structure Applies (src before after : Dir Content) : Prop where
  copied : ∀ (top : TopDir) path, src.contains top.path = true →
    Dir.under top.path path = true → path ≠ Vault.dbPath → after.get path = src.get path
  kept : ∀ path, (∀ top : TopDir, src.contains top.path = true →
    Dir.under top.path path = false) → path ≠ Vault.dbPath → after.get path = before.get path
  entries : ∀ item, Lists after item
    ↔ Lists (if src.contains TopDir.db.path then src else before) item

/-- What the head of a file target stands for: the snapshot stored under its id. -/
structure FileAccepts (s : Site) (head : SyncHeadV1) (src : Dir Content) : Prop where
  found : readHeadFile s.target = .ok (some head)
  stored : src = s.snapshot head.snapshotId

/-- What the head of a remote target stands for: what the archive stored under its id is
unpacked to. -/
structure S3Accepts (ext : Externals) (s : Site) (head : SyncHeadV1) (src : Dir Content) :
    Prop where
  found : parseHead "failed parsing s3 sync head" s.bucket[S3_HEAD_KEY]? = .ok (some head)
  stored : ∃ archive, s.bucket[snapshotKey head.snapshotId]? = some archive
    ∧ unpackZipSnapshotWithLimits ext archive (some syncSnapshotLimits) = .ok src

/-- A pull applies what the head it returns stands for. -/
def PullApplies (accepts : SyncHeadV1 → Dir Content → Prop) (before : Dir Content)
    (run : AppResult SyncPullResultV1 × Site) : Prop :=
  ∀ r, run.1 = .ok r → ∃ src, accepts r.remoteHead src ∧ Applies src before run.2.vault

/-- A pull applies nothing that is not bound to the head it returns. -/
def PullBinds (ext : Externals) (accepts : SyncHeadV1 → Dir Content → Prop)
    (run : AppResult SyncPullResultV1 × Site) : Prop :=
  ∀ r, run.1 = .ok r → ∀ src, accepts r.remoteHead src → Binds ext r.remoteHead src

theorem applies_pulled {src vault : Dir Content} {head : SyncHeadV1} {bundleRelpath : String}
    {key : Option String} {file : SqliteFile} (htop : TreesAreDirectories src)
    (hopen : Vault.openDbFile ext key ((applied src vault).get Vault.dbPath) = .ok file) :
  Applies src vault (pulled ext head bundleRelpath nowMs src vault file)
  where
  copied top path hsrc hu hne := by
    rw [pulled, Dir.get_write, if_neg hne.symm, get_applied_of_under htop hsrc hu]
  kept path hout hne := by
    rw [pulled, Dir.get_write, if_neg hne.symm, get_applied_of_not hout]
  entries item := by
    rw [← lists_congr (get_dbPath_applied htop)]
    exact lists_recorded_iff hopen

/-- The files a vault has from a snapshot that is bound to a head are listed in the manifest of
that head. -/
theorem Applies.listed {src before after : Dir Content} {head : SyncHeadV1}
    (h : Applies src before after) (hbinds : Binds ext head src) :
  ∃ content manifest, src.get Export.manifestPath = some content
    ∧ blake3HexPrefixed ext content = head.manifestHash
    ∧ content.parseJson = .ok manifest
    ∧ ∀ (top : TopDir) path file, src.contains top.path = true → Dir.under top.path path = true →
      Vouched path → path ≠ Vault.dbPath → after.get path = some file →
      ListsFile manifest path (blake3HexPrefixed ext file)
  := by
  obtain ⟨content, manifest, hget, hhash, hparse, hlisted⟩ := hbinds
  refine ⟨content, manifest, hget, hhash, hparse, ?_⟩
  intro top path file hsrc hu hv hne hfile
  apply hlisted path file hv
  rw [← h.copied top path hsrc hu hne, hfile]

/-- A target whose snapshot is not the one its head was written for: the manifest has another
hash than the head gives. -/
def Sample.tampered : Site where
  vault := Sample.vault Sample.db []
  target := Sample.target (fileHead "snapshot" "blake3:00" 1)
    [("snapshot", Sample.documentVault.write Export.manifestPath (.json (.obj []) 0))]
  bucket := ∅

end Sync

end KnowledgeCore
