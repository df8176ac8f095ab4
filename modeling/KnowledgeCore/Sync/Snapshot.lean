import KnowledgeCore.Sync.Ops

/-!
# Snapshots

What push and pull share: the snapshot of the local vault, the test for a conflict and the
artifact it leaves, the change set of a snapshot, the replacement of the vault's trees, and
the rows that record what was last synchronised.
-/

namespace KnowledgeCore

namespace Sync

open SyncMerge (SyncMergeChangeSetV1)

/-! ### Local snapshots -/

/-- The hash of the manifest of a bundle. -/
def computeManifestHash (ext : Externals) (bundle : Dir Content) : AppResult String :=
  match bundle.get Export.manifestPath with
  | some manifest => .ok (blake3HexPrefixed ext manifest)
  | none => .error (stateFailed "failed reading manifest for sync hash")

/-- Export the vault as a folder. -/
def buildLocalSnapshot (ext : Externals) : SyncM (Dir Content × String) := do
  let bundle ← exportBundle { includeVectors := true, asZip := false }
  let manifestHash ← Prog.ofExcept (computeManifestHash ext bundle)
  pure (bundle, manifestHash)

/-- Export the vault for an archive. The hash is that of the manifest in the archive. -/
def buildLocalSnapshotZip (ext : Externals) : SyncM (Dir Content × String) := do
  let bundle ← exportBundle { includeVectors := true, asZip := true }
  let manifestHash ← Prog.ofExcept (computeManifestHash ext bundle)
  pure (bundle, manifestHash)

def snapshotIdForManifest (ext : Externals) (manifestHash : String) (nowMs : Int64) : String :=
  blake3HexPrefixed ext
    (.text ("kc.sync.snapshot.v2\n" ++ manifestHash ++ "\n" ++ toString nowMs.toInt))

/-! ### Conflicts -/

/-- Whether the remote and the local side have diverged. The remote side counts as changed
only when a head is known to be another one than the one last seen, the local side only when
the vault is known to be another one than at the last synchronisation. -/
def shouldConflict (remoteHead : Option SyncHeadV1)
    (seenRemoteSnapshotId lastAppliedManifestHash : Option String)
    (localManifestHash : String) : Bool :=
  let remoteChanged :=
    match remoteHead, seenRemoteSnapshotId with
    | some head, some seen => head.snapshotId != seen
    | _, _ => false
  let localChanged :=
    match lastAppliedManifestHash with
    | some last => last != localManifestHash
    | none => false
  remoteChanged && localChanged

theorem shouldConflict_iff {remoteHead : Option SyncHeadV1} {seen lastApplied : Option String}
    {localHash : String} :
  shouldConflict remoteHead seen lastApplied localHash = true ↔
    (∃ head id, remoteHead = some head ∧ seen = some id ∧ head.snapshotId ≠ id)
      ∧ ∃ last, lastApplied = some last ∧ last ≠ localHash
  := by
  cases remoteHead <;> cases seen <;> cases lastApplied <;> simp [shouldConflict]

structure SyncConflictArtifactV1 where
  vaultId : String
  nowMs : Int64
  localManifestHash : String
  remoteHeadSnapshotId : Option String
  remoteHeadManifestHash : Option String
  seenRemoteSnapshotId : Option String
  target : String
  localTrustFingerprint : Option String
  remoteTrustFingerprint : Option String

def SyncConflictArtifactV1.toJson (a : SyncConflictArtifactV1) : Json :=
  .obj [("schema_version", .int 1), ("kind", .str "sync_conflict"),
    ("vault_id", .str a.vaultId), ("now_ms", .int a.nowMs.toInt),
    ("local_manifest_hash", .str a.localManifestHash),
    ("remote_head_snapshot_id", .ofOption a.remoteHeadSnapshotId),
    ("remote_head_manifest_hash", .ofOption a.remoteHeadManifestHash),
    ("seen_remote_snapshot_id", .ofOption a.seenRemoteSnapshotId),
    ("target", .str a.target),
    ("local_trust_fingerprint", .ofOption a.localTrustFingerprint),
    ("remote_trust_fingerprint", .ofOption a.remoteTrustFingerprint)]

/-- The artifact of a conflict, and the name of its file. -/
def conflictArtifact (ext : Externals) (target vaultId : String) (nowMs : Int64)
    (localManifestHash : String) (remoteHead : Option SyncHeadV1)
    (seenRemoteSnapshotId localTrustFingerprint : Option String) :
  AppResult (String × Content)
  := do
  let artifact : SyncConflictArtifactV1 := {
    vaultId
    nowMs
    localManifestHash
    remoteHeadSnapshotId := remoteHead.map SyncHeadV1.snapshotId
    remoteHeadManifestHash := remoteHead.map SyncHeadV1.manifestHash
    seenRemoteSnapshotId
    target
    localTrustFingerprint
    remoteTrustFingerprint :=
      (remoteHead.bind SyncHeadV1.trust).map SyncTrustV1.fingerprint }
  let canonical ← Content.ofCanonical artifact.toJson
  let digest := (blake3HexPrefixed ext canonical).toList.drop 7
  .ok ("conflict_" ++ toString nowMs.toInt ++ "_" ++ String.ofList (digest.take 16) ++ ".json",
    canonical)

/-- Leave a conflict artifact at a file target. -/
def createConflictArtifact (ext : Externals) (target vaultId : String) (nowMs : Int64)
    (localManifestHash : String) (remoteHead : Option SyncHeadV1)
    (seenRemoteSnapshotId localTrustFingerprint : Option String) :
  SyncM String
  := do
  let (name, artifact) ← Prog.ofExcept (conflictArtifact ext target vaultId nowMs
    localManifestHash remoteHead seenRemoteSnapshotId localTrustFingerprint)
  writeConflict name artifact
  pure (target ++ "/conflicts/" ++ name)

/-- Leave a conflict artifact at a remote target. -/
def createConflictArtifactS3 (ext : Externals) (target vaultId : String) (nowMs : Int64)
    (localManifestHash : String) (remoteHead : Option SyncHeadV1)
    (seenRemoteSnapshotId localTrustFingerprint : Option String) :
  SyncM String
  := do
  let (name, artifact) ← Prog.ofExcept (conflictArtifact ext target vaultId nowMs
    localManifestHash remoteHead seenRemoteSnapshotId localTrustFingerprint)
  s3Write ("conflicts/" ++ name) artifact
  pure ("conflicts/" ++ name)

/-- The error of a conflict. -/
def conflictError (details : List (String × Json)) : AppError :=
  syncError "KC_SYNC_CONFLICT" "remote and local changes diverged; conflict artifact emitted"
    (.obj details)

/-! ### Change sets -/

def mergePreconditionFailed (message : String) (details : List (String × Json)) : AppError :=
  syncError "KC_SYNC_MERGE_PRECONDITION_FAILED" message (.obj details)

/-- The lineage overlays in the database of a snapshot. A database that does not exist has
none. -/
def readOverlayIdsFromSnapshotDb : Option Content → AppResult (List String)
  | none => .ok []
  | some (.raw []) => .ok []
  | some (.sqlite file) =>
    if file.key.isNone then
      .ok file.db.lineageOverlays.keys
    else
      .error (mergePreconditionFailed
        "failed checking lineage overlay table in snapshot db"
        [("error", .str "file is not a database")])
  | some _ =>
    .error (mergePreconditionFailed "failed checking lineage overlay table in snapshot db"
      [("error", .str "file is not a database")])

/-- The hashes of the entries of a manifest. -/
def objectHashes : List Json → AppResult (List String)
  | [] => .ok []
  | object :: rest => do
    let hash ← okOrElse
      (mergePreconditionFailed "snapshot manifest object entry missing hash" [])
      ((object.get "hash").bind Json.asStr)
    let hashes ← objectHashes rest
    .ok (hash :: hashes)

/-- The change set of a snapshot: the objects its manifest lists and the overlays of its
database. -/
def extractChangeSetFromBundleDir (bundle : Dir Content) : AppResult SyncMergeChangeSetV1 := do
  let manifestBytes ← okOrElse
    (mergePreconditionFailed "failed reading snapshot manifest for merge preview" [])
    (bundle.get Export.manifestPath)
  let manifest ← mapErr
    (fun error => mergePreconditionFailed "failed parsing snapshot manifest for merge preview"
      [("error", .str error)])
    manifestBytes.parseJson
  let objects ← okOrElse
    (mergePreconditionFailed "snapshot manifest missing objects array" [])
    ((manifest.get "objects").bind Json.asArray)
  let objectHashes ← objectHashes objects
  let dbRel := (((manifest.get "db").bind (fun db => db.get "relative_path")).bind
    Json.asStr).getD "db/knowledge.sqlite"
  let lineageOverlayIds ← readOverlayIdsFromSnapshotDb (bundle.get (Export.relPath dbRel))
  .ok { objectHashes, lineageOverlayIds }

/-- What a change set has beyond a base. -/
def deltaChangeSet (current base : SyncMergeChangeSetV1) : SyncMergeChangeSetV1 where
  objectHashes := current.objectHashes.filter (fun h => h ∉ base.objectHashes)
  lineageOverlayIds := current.lineageOverlayIds.filter (fun o => o ∉ base.lineageOverlayIds)

/-! ### Applying a snapshot -/

def MIB : Nat := 1024 * 1024

def syncSnapshotLimits : SyncSnapshotResourceLimits where
  maxArchiveBytes := 2 * 1024 * MIB
  maxEntries := 250000
  maxEntryBytes := 250 * MIB

/-- Replace a tree of the vault by that of the snapshot, if the snapshot has it. -/
def replaceTop (source : Source) (top : TopDir) : SyncM Unit := do
  if ← sourceHas source top then
    match ← topKind top with
    | .absent => pure ()
    | .directory => removeTop top
    | .file => removeTop top
    createTop top
    copyTop source top
  else
    pure ()

/-- Replace the trees of the vault by those of the snapshot. -/
def applySnapshotToVault (source : Source) : SyncM Unit := do
  validateLimits source syncSnapshotLimits
  TopDir.all.forM (replaceTop source)

/-- Record what was synchronised last. -/
def recordSync (direction snapshotId bundleRelpath manifestHash : String) (nowMs : Int64) :
  SyncM Unit
  := do
  writeState "sync_remote_head_seen" snapshotId nowMs
  writeState "sync_last_applied_manifest_hash" manifestHash nowMs
  writeState "sync_last_applied_snapshot_id" snapshotId nowMs
  writeSnapshotLog snapshotId { direction, createdAtMs := nowMs, bundleRelpath, manifestHash }

end Sync

end KnowledgeCore
