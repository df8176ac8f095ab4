import KnowledgeCore.Sync.Lock

/-!
# Push

A push exports the vault, compares with the head of the target, publishes the snapshot, moves
the head to it, and records in the database of the vault what it published. A push to a remote
target compares a second time under the write lock and signs the head it writes.
-/

namespace KnowledgeCore

namespace Sync

structure SyncPushResultV1 where
  snapshotId : String
  manifestHash : String
  remoteHead : SyncHeadV1

/-- The result that goes with a head. -/
def pushResult (head : SyncHeadV1) : SyncPushResultV1 where
  snapshotId := head.snapshotId
  manifestHash := head.manifestHash
  remoteHead := head

/-! ### File targets -/

/-- The head a push to a file target writes. -/
def fileHead (snapshotId manifestHash : String) (nowMs : Int64) : SyncHeadV1 where
  schemaVersion := 2
  snapshotId := snapshotId
  manifestHash := manifestHash
  createdAtMs := nowMs

/-- Copy a bundle to the directory of its snapshot. -/
def publishSnapshot (snapshotId : String) (bundle : Dir Content) : SyncM Unit := do
  if ← snapshotExists snapshotId then
    removeSnapshot snapshotId
  else
    pure ()
  createSnapshot snapshotId
  copyToSnapshot snapshotId bundle

/-- What a push to a file target does before it publishes anything: export the vault, and
stop at a conflict. -/
def preparePush (ext : Externals) (target : String) (nowMs : Int64) :
  SyncM (Dir Content × String)
  := do
  ensureSyncTables
  let vault ← vaultOpen
  ensureTargetLayout
  let remoteHead ← readHead
  let seenRemote ← readState "sync_remote_head_seen"
  let lastAppliedManifest ← readState "sync_last_applied_manifest_hash"
  let (localBundle, localManifestHash) ← buildLocalSnapshot ext
  if shouldConflict remoteHead seenRemote lastAppliedManifest localManifestHash then do
    let conflictPath ← createConflictArtifact ext target vault.vaultId nowMs localManifestHash
      remoteHead seenRemote none
    .fail (conflictError [("conflict_artifact", .str conflictPath)])
  else
    pure (localBundle, localManifestHash)

/-- Move the head and record it in the vault. -/
def finishPush (moveHead : SyncM Unit) (head : SyncHeadV1) (bundleRelpath : String)
    (nowMs : Int64) : SyncM SyncPushResultV1 := do
  moveHead
  recordSync "push" head.snapshotId bundleRelpath head.manifestHash nowMs
  pure (pushResult head)

def syncPush (ext : Externals) (target : String) (nowMs : Int64) : SyncM SyncPushResultV1 := do
  let (localBundle, localManifestHash) ← preparePush ext target nowMs
  let snapshotId := snapshotIdForManifest ext localManifestHash nowMs
  publishSnapshot snapshotId localBundle
  let head := fileHead snapshotId localManifestHash nowMs
  finishPush (writeHead head) head ("snapshots/" ++ snapshotId) nowMs

/-! ### Remote targets -/

def S3_HEAD_KEY : String := "head.json"

def snapshotKey (snapshotId : String) : String :=
  "snapshots/" ++ snapshotId ++ ".zip"

def readHeadS3 : SyncM (Option SyncHeadV1) := do
  let object ← s3Read S3_HEAD_KEY
  Prog.ofExcept (parseHead "failed parsing s3 sync head" object)

def writeHeadS3 (head : SyncHeadV1) : SyncM Unit := do
  let bytes ← Prog.ofExcept (Content.ofCanonical head.toJson)
  s3Write S3_HEAD_KEY bytes

/-- The head a push to a remote target writes. -/
def signedHead (snapshotId manifestHash : String) (nowMs : Int64) (trust : SyncTrustV1)
    (author : Trust.AuthorIdentity) (signature : SyncAuth.SyncPayloadSignature) :
  SyncHeadV1
  where
  schemaVersion := 3
  snapshotId := snapshotId
  manifestHash := manifestHash
  createdAtMs := nowMs
  trust := some trust
  authorDeviceId := some author.deviceId
  authorFingerprint := some author.fingerprint
  authorSignature := some signature.signature
  authorSignatureAlg := signature.signatureAlg
  authorCertId := some author.certId
  authorChainHash := some author.certChainHash

/-- Sign the head of a snapshot. -/
def signHead (ext : Externals) (host : Host) (db : Db) (snapshotId manifestHash : String)
    (nowMs : Int64) (trust : SyncTrustV1) (author : Trust.AuthorIdentity) :
  AppResult SyncHeadV1
  := do
  let payload ← SyncAuth.syncSignaturePayload {
    snapshotId
    manifestHash
    createdAtMs := nowMs
    authorDeviceId := author.deviceId
    authorFingerprint := author.fingerprint
    authorCertId := author.certId
    authorChainHash := author.certChainHash }
  let signature ← SyncAuth.signSyncPayload ext host db author.deviceId payload
  .ok (signedHead snapshotId manifestHash nowMs trust author signature)

/-- What a push to a remote target carries into the critical section. -/
structure S3PushPlan where
  vault : VaultJsonV3
  localTrust : SyncTrustV1
  localAuthor : Trust.AuthorIdentity
  seenRemote : Option String
  lastAppliedManifest : Option String
  localBundle : Dir Content
  localManifestHash : String

/-- Fail with a conflict and leave its artifact, if the head has diverged. -/
def refuseDivergedS3 (ext : Externals) (target : String) (nowMs : Int64) (plan : S3PushPlan)
    (remoteHead : Option SyncHeadV1) : SyncM Unit :=
  if shouldConflict remoteHead plan.seenRemote plan.lastAppliedManifest
      plan.localManifestHash then do
    let conflictKey ← createConflictArtifactS3 ext target plan.vault.vaultId nowMs
      plan.localManifestHash remoteHead plan.seenRemote (some plan.localTrust.fingerprint)
    .fail (conflictError [("conflict_artifact", .str conflictKey), ("target", .str target)])
  else
    pure ()

/-- Check the head of a remote target against the trust of the vault. -/
def checkRemoteTrust (ext : Externals) (remoteHead : Option SyncHeadV1)
    (localTrust : SyncTrustV1) : SyncM Unit := do
  let db ← readDb
  Prog.ofExcept (SyncAuth.ensureRemoteTrustMatches ext db remoteHead localTrust)

/-- What a push to a remote target does before it takes the lock. -/
def prepareS3Push (ext : Externals) (host : Host) (target : String) (nowMs : Int64) :
  SyncM S3PushPlan
  := do
  ensureSyncTables
  let vault ← vaultOpen
  let localTrust ← Prog.ofExcept (SyncAuth.deriveLocalSyncTrust ext host vault nowMs)
  let db ← readDb
  let localAuthor ← Prog.ofExcept (SyncAuth.localSyncAuthor db)
  let seenRemote ← readState "sync_remote_head_seen"
  let lastAppliedManifest ← readState "sync_last_applied_manifest_hash"
  let (localBundle, localManifestHash) ← buildLocalSnapshotZip ext
  let remoteHead ← readHeadS3
  checkRemoteTrust ext remoteHead localTrust
  let plan : S3PushPlan := {
    vault
    localTrust
    localAuthor
    seenRemote
    lastAppliedManifest
    localBundle
    localManifestHash }
  refuseDivergedS3 ext target nowMs plan remoteHead
  pure plan

/-- What a push to a remote target does under the lock before it moves the head: compare
again, upload the snapshot, and sign the new head. -/
def composeS3Push (ext : Externals) (host : Host) (target : String) (nowMs : Int64)
    (plan : S3PushPlan) : SyncM SyncHeadV1 := do
  let latestRemoteHead ← readHeadS3
  checkRemoteTrust ext latestRemoteHead plan.localTrust
  refuseDivergedS3 ext target nowMs plan latestRemoteHead
  let snapshotId := snapshotIdForManifest ext plan.localManifestHash nowMs
  let zipBytes ← readZip plan.localBundle
  s3Write (snapshotKey snapshotId) zipBytes
  let db ← readDb
  Prog.ofExcept (signHead ext host db snapshotId plan.localManifestHash nowMs plan.localTrust
    plan.localAuthor)

/-- What a push to a remote target does under the lock. -/
def publishS3Push (ext : Externals) (host : Host) (target : String) (nowMs : Int64)
    (plan : S3PushPlan) : SyncM SyncPushResultV1 := do
  let head ← composeS3Push ext host target nowMs plan
  finishPush (writeHeadS3 head) head (snapshotKey head.snapshotId) nowMs

def syncPushS3Target (ext : Externals) (host : Host) (target : String) (nowMs : Int64) :
  SyncM SyncPushResultV1
  := do
  let plan ← prepareS3Push ext host target nowMs
  withS3Lock target plan.vault.vaultId plan.localTrust nowMs
    (publishS3Push ext host target nowMs plan)

end Sync

end KnowledgeCore
