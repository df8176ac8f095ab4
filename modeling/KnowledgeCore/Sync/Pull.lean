import KnowledgeCore.Sync.Push

/-!
# Pull

A pull reads the head of the target, compares it with what the vault has last seen, and
replaces the trees of the vault by those of the snapshot the head points at. When the two sides
have diverged it stops, or in an auto-merge mode goes on if a preview of the merge is safe. A
pull from a remote target compares a second time under the write lock.
-/

namespace KnowledgeCore

namespace Sync

open SyncMerge

structure SyncPullResultV1 where
  snapshotId : String
  manifestHash : String
  remoteHead : SyncHeadV1

/-- The result that goes with a head. -/
def pullResult (head : SyncHeadV1) : SyncPullResultV1 where
  snapshotId := head.snapshotId
  manifestHash := head.manifestHash
  remoteHead := head

/-! ### Merge previews -/

structure SyncMergePreviewResultV1 where
  targetPath : String
  seenRemoteSnapshotId : Option String
  remoteSnapshotId : String
  report : SyncMergePreviewReport

/-- The preview of the policy a user names, the conservative one if none is named. -/
def mergePreviewReportForPolicy (localDelta remoteDelta : SyncMergeChangeSetV1)
    (policy : Option String) (nowMs : Int64) :
  AppResult SyncMergePreviewReport
  :=
  match policy with
  | none => mergePreviewConservative localDelta remoteDelta nowMs
  | some policy =>
    if policy = "conservative" then
      mergePreviewConservative localDelta remoteDelta nowMs
    else if policy ∈ ["conservative_plus_v2", "conservative_plus_v3", "conservative_plus_v4"]
    then
      mergePreviewWithPolicyV2 localDelta remoteDelta {} policy nowMs
    else
      .error (syncError "KC_SYNC_MERGE_POLICY_UNSUPPORTED"
        "unsupported sync merge preview policy"
        (.obj [("policy", .str policy),
          ("supported", .arr [.str "conservative", .str "conservative_plus_v2",
            .str "conservative_plus_v3", .str "conservative_plus_v4"])]))

/-- The change set of a snapshot in the directory of a file target. -/
def snapshotChangeSet (target what id : String) : SyncM SyncMergeChangeSetV1 := do
  if ← snapshotExists id then
    let dir ← readSnapshot id
    Prog.ofExcept (extractChangeSetFromBundleDir dir)
  else
    .fail (mergePreconditionFailed ("sync merge preview " ++ what ++ " snapshot is missing")
      [("target_path", .str target), ("snapshot_id", .str id),
        ("path", .str (target ++ "/snapshots/" ++ id))])

/-- The change set of a snapshot at a remote target. -/
def extractChangeSetFromS3Snapshot (target id : String) : SyncM SyncMergeChangeSetV1 := do
  let object ← s3Read (snapshotKey id)
  let archive ← Prog.ofExcept (okOrElse
    (mergePreconditionFailed "sync merge preview snapshot is missing on remote target"
      [("target", .str target), ("snapshot_id", .str id), ("key", .str (snapshotKey id))])
    object)
  let dir ← unpackZip archive none
  Prog.ofExcept (extractChangeSetFromBundleDir dir)

/-- The change set both sides started from: that of the snapshot last seen, or the empty one. -/
def baseChangeSet (changeSet : String → SyncM SyncMergeChangeSetV1)
    (seenRemoteSnapshotId : Option String) : SyncM SyncMergeChangeSetV1 :=
  match seenRemoteSnapshotId with
  | some id => changeSet id
  | none => pure {}

/-- The preview of a merge, given the change sets of the snapshots involved. -/
def previewMerge (target : String) (policy : Option String) (nowMs : Int64)
    (head : SyncHeadV1) (seen : Option String)
    (localCurrent remoteCurrent base : SyncMergeChangeSetV1) :
  AppResult SyncMergePreviewResultV1
  := do
  let localDelta := deltaChangeSet localCurrent base
  let remoteDelta := deltaChangeSet remoteCurrent base
  let report ← mergePreviewReportForPolicy localDelta remoteDelta policy nowMs
  .ok {
    targetPath := target
    seenRemoteSnapshotId := seen
    remoteSnapshotId := head.snapshotId
    report }

def syncMergePreviewFileTarget (ext : Externals) (target : String) (policy : Option String)
    (nowMs : Int64) : SyncM SyncMergePreviewResultV1 := do
  ensureSyncTables
  let head ← readHead
  let remoteHead ← Prog.ofExcept (okOrElse
    (mergePreconditionFailed "sync merge preview requires a remote head"
      [("target_path", .str target)])
    head)
  let seen ← readState "sync_remote_head_seen"
  let (localBundle, _) ← buildLocalSnapshot ext
  let localCurrent ← Prog.ofExcept (extractChangeSetFromBundleDir localBundle)
  let remoteCurrent ← snapshotChangeSet target "remote" remoteHead.snapshotId
  let base ← baseChangeSet (snapshotChangeSet target "base") seen
  Prog.ofExcept (previewMerge target policy nowMs remoteHead seen localCurrent remoteCurrent
    base)

def syncMergePreviewS3Target (ext : Externals) (host : Host) (target : String)
    (policy : Option String) (nowMs : Int64) : SyncM SyncMergePreviewResultV1 := do
  ensureSyncTables
  let vault ← vaultOpen
  let localTrust ← Prog.ofExcept (SyncAuth.deriveLocalSyncTrust ext host vault nowMs)
  let head ← readHeadS3
  let remoteHead ← Prog.ofExcept (okOrElse
    (mergePreconditionFailed "sync merge preview requires a remote head"
      [("target", .str target)])
    head)
  checkRemoteTrust ext (some remoteHead) localTrust
  let seen ← readState "sync_remote_head_seen"
  let (localBundle, _) ← buildLocalSnapshot ext
  let localCurrent ← Prog.ofExcept (extractChangeSetFromBundleDir localBundle)
  let remoteCurrent ← extractChangeSetFromS3Snapshot target remoteHead.snapshotId
  let base ← baseChangeSet (extractChangeSetFromS3Snapshot target) seen
  Prog.ofExcept (previewMerge target policy nowMs remoteHead seen localCurrent remoteCurrent
    base)

/-! ### Auto-merge modes -/

inductive SyncAutoMergeMode
  | conservative
  | conservativePlusV2
  | conservativePlusV3
  | conservativePlusV4
deriving DecidableEq

def parseAutoMergeMode (mode : Option String) : AppResult (Option SyncAutoMergeMode) :=
  match mode with
  | none => .ok none
  | some raw =>
    match raw with
    | "conservative" => .ok (some .conservative)
    | "conservative_plus_v2" => .ok (some .conservativePlusV2)
    | "conservative_plus_v3" => .ok (some .conservativePlusV3)
    | "conservative_plus_v4" => .ok (some .conservativePlusV4)
    | other =>
      .error (syncError "KC_SYNC_MERGE_POLICY_UNSUPPORTED" "unsupported sync auto-merge mode"
        (.obj [("auto_merge", .str other),
          ("supported", .arr [.str "conservative", .str "conservative_plus_v2",
            .str "conservative_plus_v3", .str "conservative_plus_v4"])]))

/-- Refuse a merge that the policy of a mode does not take for safe. The modes other than the
conservative one preview the two sides of the conservative preview a second time. -/
def ensureMergeSafe (mode : SyncAutoMergeMode) (report : SyncMergePreviewReport)
    (nowMs : Int64) : AppResult Unit :=
  match mode with
  | .conservative => ensureConservativeMergeSafe report
  | .conservativePlusV2 => do
    let reportV2 ← mergePreviewWithPolicyV2 report.localSet report.remoteSet {}
      "conservative_plus_v2" nowMs
    ensureConservativePlusV2MergeSafe reportV2
  | .conservativePlusV3 => do
    let reportV3 ← mergePreviewWithPolicyV2 report.localSet report.remoteSet {}
      "conservative_plus_v3" nowMs
    ensureConservativePlusV3MergeSafe reportV3
  | .conservativePlusV4 => do
    let reportV4 ← mergePreviewWithPolicyV2 report.localSet report.remoteSet {}
      "conservative_plus_v4" nowMs
    ensureConservativePlusV4MergeSafe reportV4

/-! ### Both kinds of targets -/

/-- The head a pull needs to be there. -/
def requireHead (details : List (String × Json)) (head : Option SyncHeadV1) :
  AppResult SyncHeadV1
  := okOrElse (targetInvalid "sync target has no head.json" details) head

/-- Check the author of a head, if strict authentication is asked for. -/
def checkStrictAuth (ext : Externals) (target : String) (strictAuth : Bool)
    (head : SyncHeadV1) : SyncM Unit :=
  if strictAuth then do
    let db ← readDb
    Prog.ofExcept (SyncAuth.ensureStrictSyncAuthReady ext db target head)
  else
    pure ()

/-- Replace the trees of the vault and record the head they come from. -/
def finishPull (source : Source) (head : SyncHeadV1) (bundleRelpath : String) (nowMs : Int64) :
  SyncM SyncPullResultV1
  := do
  applySnapshotToVault source
  openDb
  recordSync "pull" head.snapshotId bundleRelpath head.manifestHash nowMs
  pure (pullResult head)

/-! ### File targets -/

/-- At a conflict stop and leave its artifact, or preview the merge and stop if it is not
safe. -/
def resolveConflict (ext : Externals) (target : String) (nowMs : Int64)
    (autoMergeMode : Option SyncAutoMergeMode) (vaultId localManifestHash : String)
    (remoteHead : SyncHeadV1) (seenRemote lastAppliedManifest : Option String) : SyncM Unit :=
  if shouldConflict (some remoteHead) seenRemote lastAppliedManifest localManifestHash then
    match autoMergeMode with
    | some mode => do
      let preview ← syncMergePreviewFileTarget ext target none nowMs
      Prog.ofExcept (ensureMergeSafe mode preview.report nowMs)
    | none => do
      let conflictPath ← createConflictArtifact ext target vaultId nowMs localManifestHash
        (some remoteHead) seenRemote none
      .fail (conflictError [("conflict_artifact", .str conflictPath)])
  else
    pure ()

/-- What a pull from a file target does before it touches the vault. -/
def preparePull (ext : Externals) (target : String) (nowMs : Int64)
    (autoMergeMode : Option SyncAutoMergeMode) (strictAuth : Bool) : SyncM SyncHeadV1 := do
  ensureSyncTables
  mainDbPath
  let vault ← vaultOpen
  let head ← readHead
  let remoteHead ← Prog.ofExcept (requireHead [("target_path", .str target)] head)
  checkStrictAuth ext target strictAuth remoteHead
  let seenRemote ← readState "sync_remote_head_seen"
  let lastAppliedManifest ← readState "sync_last_applied_manifest_hash"
  let (_, localManifestHash) ← buildLocalSnapshot ext
  resolveConflict ext target nowMs autoMergeMode vault.vaultId localManifestHash remoteHead
    seenRemote lastAppliedManifest
  if ← snapshotExists remoteHead.snapshotId then
    pure remoteHead
  else
    .fail (targetInvalid "remote snapshot directory missing for head"
      [("snapshot_id", .str remoteHead.snapshotId),
        ("path", .str (target ++ "/snapshots/" ++ remoteHead.snapshotId))])

def syncPullWithMode (ext : Externals) (target : String) (nowMs : Int64)
    (autoMergeMode : Option SyncAutoMergeMode) (strictAuth : Bool) : SyncM SyncPullResultV1 := do
  let remoteHead ← preparePull ext target nowMs autoMergeMode strictAuth
  finishPull (.snapshot remoteHead.snapshotId) remoteHead
    ("snapshots/" ++ remoteHead.snapshotId) nowMs

/-- A pull without auto-merge, which always checks the author of the head. -/
def syncPull (ext : Externals) (target : String) (nowMs : Int64) : SyncM SyncPullResultV1 :=
  syncPullWithMode ext target nowMs none true

/-! ### Remote targets -/

/-- What a pull from a remote target carries into the critical section. -/
structure S3PullPlan where
  vault : VaultJsonV3
  localTrust : SyncTrustV1
  seenRemote : Option String
  lastAppliedManifest : Option String
  localManifestHash : String

/-- At a conflict stop and leave its artifact, or preview the merge and stop if it is not
safe. -/
def resolveConflictS3 (ext : Externals) (host : Host) (target : String) (nowMs : Int64)
    (autoMergeMode : Option SyncAutoMergeMode) (plan : S3PullPlan) (remoteHead : SyncHeadV1) :
  SyncM Unit
  :=
  if shouldConflict (some remoteHead) plan.seenRemote plan.lastAppliedManifest
      plan.localManifestHash then
    match autoMergeMode with
    | some mode => do
      let preview ← syncMergePreviewS3Target ext host target none nowMs
      Prog.ofExcept (ensureMergeSafe mode preview.report nowMs)
    | none => do
      let conflictKey ← createConflictArtifactS3 ext target plan.vault.vaultId nowMs
        plan.localManifestHash (some remoteHead) plan.seenRemote
        (some plan.localTrust.fingerprint)
      .fail (conflictError [("conflict_artifact", .str conflictKey), ("target", .str target)])
  else
    pure ()

/-- Read the head of a remote target and check where it comes from. -/
def acceptHeadS3 (ext : Externals) (target : String) (strictAuth : Bool)
    (localTrust : SyncTrustV1) : SyncM SyncHeadV1 := do
  let head ← readHeadS3
  let remoteHead ← Prog.ofExcept (requireHead [("target", .str target)] head)
  checkRemoteTrust ext (some remoteHead) localTrust
  checkStrictAuth ext target strictAuth remoteHead
  pure remoteHead

/-- What a pull from a remote target does before it takes the lock. -/
def prepareS3Pull (ext : Externals) (host : Host) (target : String) (nowMs : Int64)
    (autoMergeMode : Option SyncAutoMergeMode) (strictAuth : Bool) : SyncM S3PullPlan := do
  ensureSyncTables
  mainDbPath
  let vault ← vaultOpen
  let localTrust ← Prog.ofExcept (SyncAuth.deriveLocalSyncTrust ext host vault nowMs)
  let remoteHead ← acceptHeadS3 ext target strictAuth localTrust
  let seenRemote ← readState "sync_remote_head_seen"
  let lastAppliedManifest ← readState "sync_last_applied_manifest_hash"
  let (_, localManifestHash) ← buildLocalSnapshot ext
  let plan : S3PullPlan := {
    vault
    localTrust
    seenRemote
    lastAppliedManifest
    localManifestHash }
  resolveConflictS3 ext host target nowMs autoMergeMode plan remoteHead
  pure plan

/-- What a pull from a remote target does under the lock before it touches the vault. -/
def fetchS3Snapshot (ext : Externals) (host : Host) (target : String) (nowMs : Int64)
    (autoMergeMode : Option SyncAutoMergeMode) (strictAuth : Bool) (plan : S3PullPlan) :
  SyncM (SyncHeadV1 × Dir Content)
  := do
  let remoteHeadLocked ← acceptHeadS3 ext target strictAuth plan.localTrust
  resolveConflictS3 ext host target nowMs autoMergeMode plan remoteHeadLocked
  let key := snapshotKey remoteHeadLocked.snapshotId
  let object ← s3Read key
  let archive ← Prog.ofExcept (okOrElse
    (targetInvalid "remote snapshot zip is missing for sync head"
      [("snapshot_id", .str remoteHeadLocked.snapshotId), ("key", .str key),
        ("target", .str target)])
    object)
  let unpackDir ← unpackZip archive (some syncSnapshotLimits)
  pure (remoteHeadLocked, unpackDir)

/-- What a pull from a remote target does under the lock. -/
def applyS3Pull (ext : Externals) (host : Host) (target : String) (nowMs : Int64)
    (autoMergeMode : Option SyncAutoMergeMode) (strictAuth : Bool) (plan : S3PullPlan) :
  SyncM SyncPullResultV1
  := do
  let (head, unpackDir) ← fetchS3Snapshot ext host target nowMs autoMergeMode strictAuth plan
  finishPull (.unpacked unpackDir) head (snapshotKey head.snapshotId) nowMs

def syncPullS3Target (ext : Externals) (host : Host) (target : String) (nowMs : Int64)
    (autoMergeMode : Option SyncAutoMergeMode) (strictAuth : Bool) : SyncM SyncPullResultV1 := do
  let plan ← prepareS3Pull ext host target nowMs autoMergeMode strictAuth
  withS3Lock target plan.vault.vaultId plan.localTrust nowMs
    (applyS3Pull ext host target nowMs autoMergeMode strictAuth plan)

end Sync

end KnowledgeCore
