import KnowledgeCore.Sync.Pull

/-!
# What the programs touch

The operations fall into classes by what they may change. Each phase of a push or a pull keeps
to one class, whatever its operations are answered, so the parts of the world outside of it stay
as they are.
-/

namespace KnowledgeCore

namespace Op

/-! ### Classes of operations -/

/-- The operations that change nothing. -/
def Reads : Op → Prop
  | vaultOpen | exportBundle _ | readZip _ | unpackZip _ _ | ensureSyncTables | mainDbPath
  | readState _ | readDb | ensureTargetLayout | readHead | snapshotExists _ | readSnapshot _
  | validateLimits _ _ | sourceHas _ _ | topKind _ | s3Read _ => True
  | _ => False

/-- The operations of the checks before a push or a pull acts: they change nothing, except that
a conflict leaves its artifact. -/
def Prepares : Op → Prop
  | writeConflict _ _ => True
  | s3Write key _ => ∃ name, key = "conflicts/" ++ name
  | o => o.Reads

/-- The operations that replace the trees of the vault. -/
def Replaces : Op → Prop
  | removeTop _ | createTop _ | copyTop _ _ => True
  | _ => False

/-- The operations that record what was synchronised last. -/
def Records : Op → Prop
  | writeState _ _ _ | writeSnapshotLog _ _ => True
  | _ => False

/-- The operations of the lock. -/
def Locks : Op → Prop
  | s3Read key | s3WriteIfAbsent key _ | s3Delete key => key = Sync.S3_LOCK_KEY
  | _ => False

/-- The operations that publish a snapshot. -/
def Publishes : Op → Prop
  | snapshotExists _ | removeSnapshot _ | createSnapshot _ | copyToSnapshot _ _ => True
  | s3Write key _ => ∃ id, key = Sync.snapshotKey id
  | _ => False

/-- The operations that leave the vault alone. -/
def KeepsVault : Op → Prop
  | writeState _ _ _ | writeSnapshotLog _ _ | openDb | removeTop _ | createTop _
  | copyTop _ _ => False
  | _ => True

/-- The operations that leave the head of a file target alone. -/
def KeepsHead : Op → Prop
  | writeHead _ => False
  | _ => True

/-- The operations that leave the snapshots of a file target alone. -/
def KeepsSnapshots : Op → Prop
  | removeSnapshot _ | createSnapshot _ | copyToSnapshot _ _ => False
  | _ => True

/-- The operations that leave an object of a remote target alone. -/
def KeepsKey (key : String) : Op → Prop
  | s3Write key' _ | s3WriteIfAbsent key' _ | s3Delete key' => key' ≠ key
  | _ => True

theorem Reads.prepares {o : Op} (h : o.Reads) :
  o.Prepares
  := by
  cases o <;> first | exact h | exact h.elim

theorem Prepares.keepsVault {o : Op} (h : o.Prepares) :
  o.KeepsVault
  := by
  cases o <;> trivial

theorem Prepares.keepsHead {o : Op} (h : o.Prepares) :
  o.KeepsHead
  := by
  cases o <;> trivial

theorem Prepares.keepsSnapshots {o : Op} (h : o.Prepares) :
  o.KeepsSnapshots
  := by
  cases o <;> trivial

/-- An object that is no conflict artifact is left alone by the checks. -/
theorem Prepares.keepsKey {o : Op} {key : String} (h : o.Prepares)
    (hk : ∀ name, key ≠ "conflicts/" ++ name) :
  o.KeepsKey key
  := by
  cases o with
  | s3Write key' _ =>
    obtain ⟨name, rfl⟩ := h
    apply (hk name).symm
  | s3WriteIfAbsent _ _ => exact h.elim
  | s3Delete _ => exact h.elim
  | _ => trivial

end Op

namespace Sync

variable {ext : Externals} {host : Host}

/-! ### What an operation leaves alone -/

section

-- The equations of these definitions, made once for the theorems that follow.
attribute [local simp] withDb perform Op.Reads Op.Prepares Op.KeepsVault Op.KeepsHead
  Op.KeepsSnapshots Op.KeepsKey

end

theorem perform_reads (o : Op) (s : Site) (h : o.Reads) :
  (perform ext host o s).2 = s
  := by
  cases o with
  | ensureSyncTables | mainDbPath | readState _ | readDb =>
    rw [perform, withDb]
    split <;> rfl
  | writeConflict _ _ | writeState _ _ _ | writeSnapshotLog _ _ | openDb | writeHead _
  | removeSnapshot _ | createSnapshot _ | copyToSnapshot _ _ | removeTop _ | createTop _
  | copyTop _ _ | s3Write _ _ | s3WriteIfAbsent _ _ | s3Delete _ => exact h.elim
  | _ => rfl

theorem reads_prepares {α : Type} {p : SyncM α} (h : p.AllOps Op.Reads) :
  p.AllOps Op.Prepares
  := h.mono fun _ => Op.Reads.prepares

theorem perform_keepsVault (o : Op) (s : Site) (h : o.KeepsVault) :
  (perform ext host o s).2.vault = s.vault
  := by
  cases o with
  | writeHead head =>
    rw [perform]
    split <;> rfl
  | s3WriteIfAbsent key object =>
    rw [perform]
    split <;> rfl
  | ensureSyncTables | mainDbPath | readState _ | readDb =>
    rw [perform, withDb]
    split <;> rfl
  | writeState _ _ _ | writeSnapshotLog _ _ | openDb | removeTop _ | createTop _
  | copyTop _ _ => exact h.elim
  | _ => rfl

theorem perform_keepsHead (o : Op) (s : Site) (h : o.KeepsHead) :
  (perform ext host o s).2.target.head = s.target.head
  := by
  cases o with
  | writeHead head => exact h.elim
  | s3WriteIfAbsent _ _ | openDb | copyTop _ _ =>
    rw [perform]
    split <;> rfl
  | ensureSyncTables | mainDbPath | readState _ | readDb | writeState _ _ _
  | writeSnapshotLog _ _ =>
    rw [perform, withDb]
    split <;> rfl
  | _ => rfl

theorem perform_keepsSnapshots (o : Op) (s : Site) (h : o.KeepsSnapshots) :
  (perform ext host o s).2.target.snapshots = s.target.snapshots
  := by
  cases o with
  | removeSnapshot _ | createSnapshot _ | copyToSnapshot _ _ => exact h.elim
  | s3WriteIfAbsent _ _ | openDb | copyTop _ _ | writeHead _ =>
    rw [perform]
    split <;> rfl
  | ensureSyncTables | mainDbPath | readState _ | readDb | writeState _ _ _
  | writeSnapshotLog _ _ =>
    rw [perform, withDb]
    split <;> rfl
  | _ => rfl

theorem perform_keepsKey {key : String} (o : Op) (s : Site) (h : o.KeepsKey key) :
  (perform ext host o s).2.bucket[key]? = s.bucket[key]?
  := by
  cases o with
  | s3Write key' object => simp [perform, Std.ExtTreeMap.getElem?_insert, show key' ≠ key from h]
  | s3Delete key' => simp [perform, Std.ExtTreeMap.getElem?_erase, show key' ≠ key from h]
  | s3WriteIfAbsent key' object =>
    rw [perform]
    split
    · rfl
    · simp [Std.ExtTreeMap.getElem?_insert, show key' ≠ key from h]
  | openDb | copyTop _ _ | writeHead _ =>
    rw [perform]
    split <;> rfl
  | ensureSyncTables | mainDbPath | readState _ | readDb | writeState _ _ _
  | writeSnapshotLog _ _ =>
    rw [perform, withDb]
    split <;> rfl
  | _ => rfl

/-! ### What a program leaves alone -/

section Frames

variable {α : Type} {p : SyncM α} (ext : Externals) (host : Host)

/-- A program that only reads leaves the site as it is. -/
theorem eval_reads (h : p.AllOps Op.Reads) (s : Site) :
  (p.eval (perform ext host) s).2 = s
  := Prog.eval_frame id h perform_reads s

theorem eval_keepsVault (h : p.AllOps Op.KeepsVault) (s : Site) :
  (p.eval (perform ext host) s).2.vault = s.vault
  := Prog.eval_frame Site.vault h perform_keepsVault s

theorem eval_keepsHead (h : p.AllOps Op.KeepsHead) (s : Site) :
  (p.eval (perform ext host) s).2.target.head = s.target.head
  := Prog.eval_frame (fun t : Site => t.target.head) h perform_keepsHead s

theorem eval_keepsKey {key : String} (h : p.AllOps (Op.KeepsKey key)) (s : Site) :
  (p.eval (perform ext host) s).2.bucket[key]? = s.bucket[key]?
  := Prog.eval_frame (fun t : Site => t.bucket[key]?) h perform_keepsKey s

end Frames

/-! ### The objects of a remote target -/

/-- Two names of objects that start with different characters are different. -/
theorem key_ne_of_head {key key' : String} (h : key.toList.head? ≠ key'.toList.head?) :
  key ≠ key'
  := by
  rintro rfl
  exact h rfl

theorem snapshotKey_ne_head (id : String) :
  snapshotKey id ≠ S3_HEAD_KEY
  := by
  apply key_ne_of_head
  simp [snapshotKey, S3_HEAD_KEY, String.toList_append]

theorem snapshotKey_ne_lock (id : String) :
  snapshotKey id ≠ S3_LOCK_KEY
  := by
  apply key_ne_of_head
  simp [snapshotKey, S3_LOCK_KEY, String.toList_append]

theorem head_ne_conflict (name : String) :
  S3_HEAD_KEY ≠ "conflicts/" ++ name
  := by
  apply key_ne_of_head
  simp [S3_HEAD_KEY, String.toList_append]

theorem lock_ne_conflict (name : String) :
  S3_LOCK_KEY ≠ "conflicts/" ++ name
  := by
  apply key_ne_of_head
  simp [S3_LOCK_KEY, String.toList_append]

theorem snapshotKey_ne_conflict (id name : String) :
  snapshotKey id ≠ "conflicts/" ++ name
  := by
  apply key_ne_of_head
  simp [snapshotKey, String.toList_append]

theorem snapshotKey_injective :
  Function.Injective snapshotKey
  := by
  intro id id' h
  have h := String.append_left_inj _ |>.mp h
  apply String.append_right_inj _ |>.mp h

/-! ### The checks -/

section Checks

open Prog (AllOps)

variable {target : String} {nowMs : Int64}

theorem createConflictArtifact_prepares (vaultId localHash : String)
    (head : Option SyncHeadV1) (seen fingerprint : Option String) :
  (createConflictArtifact ext target vaultId nowMs localHash head seen fingerprint).AllOps
    Op.Prepares
  := by
  unfold createConflictArtifact
  repeat' first | apply AllOps.bind | intro _
  all_goals simp [writeConflict, Op.Prepares]

theorem createConflictArtifactS3_prepares (vaultId localHash : String)
    (head : Option SyncHeadV1) (seen fingerprint : Option String) :
  (createConflictArtifactS3 ext target vaultId nowMs localHash head seen fingerprint).AllOps
    Op.Prepares
  := by
  unfold createConflictArtifactS3
  repeat' first | apply AllOps.bind | intro _
  all_goals simp [s3Write, Op.Prepares]

theorem buildLocalSnapshot_reads :
  (buildLocalSnapshot ext).AllOps Op.Reads
  := by
  unfold buildLocalSnapshot
  repeat' first | apply AllOps.bind | intro _
  all_goals simp [exportBundle, Op.Reads]

theorem buildLocalSnapshotZip_reads :
  (buildLocalSnapshotZip ext).AllOps Op.Reads
  := by
  unfold buildLocalSnapshotZip
  repeat' first | apply AllOps.bind | intro _
  all_goals simp [exportBundle, Op.Reads]

theorem snapshotChangeSet_reads (what id : String) :
  (snapshotChangeSet target what id).AllOps Op.Reads
  := by
  unfold snapshotChangeSet
  repeat' first | apply AllOps.bind | intro _ | split
  all_goals simp [snapshotExists, readSnapshot, Op.Reads]

theorem extractChangeSetFromS3Snapshot_reads (id : String) :
  (extractChangeSetFromS3Snapshot target id).AllOps Op.Reads
  := by
  unfold extractChangeSetFromS3Snapshot
  repeat' first | apply AllOps.bind | intro _
  all_goals simp [s3Read, unpackZip, Op.Reads]

theorem baseChangeSet_reads {changeSet : String → SyncM SyncMerge.SyncMergeChangeSetV1}
    (h : ∀ id, (changeSet id).AllOps Op.Reads) (seen : Option String) :
  (baseChangeSet changeSet seen).AllOps Op.Reads
  := by
  cases seen with
  | none => simp [baseChangeSet]
  | some id => apply h

theorem readHeadS3_reads :
  readHeadS3.AllOps Op.Reads
  := by
  unfold readHeadS3
  repeat' first | apply AllOps.bind | intro _
  all_goals simp [s3Read, Op.Reads]

theorem checkRemoteTrust_reads (head : Option SyncHeadV1) (trust : SyncTrustV1) :
  (checkRemoteTrust ext head trust).AllOps Op.Reads
  := by
  unfold checkRemoteTrust
  repeat' first | apply AllOps.bind | intro _
  all_goals simp [readDb, Op.Reads]

theorem checkStrictAuth_reads (strictAuth : Bool) (head : SyncHeadV1) :
  (checkStrictAuth ext target strictAuth head).AllOps Op.Reads
  := by
  unfold checkStrictAuth
  repeat' first | apply AllOps.bind | intro _ | split
  all_goals simp [readDb, Op.Reads]

theorem syncMergePreviewFileTarget_reads (policy : Option String) :
  (syncMergePreviewFileTarget ext target policy nowMs).AllOps Op.Reads
  := by
  unfold syncMergePreviewFileTarget
  repeat' first
    | apply buildLocalSnapshot_reads
    | apply snapshotChangeSet_reads
    | apply baseChangeSet_reads
    | apply AllOps.bind
    | intro _
  all_goals simp [ensureSyncTables, readHead, readState, Op.Reads]

theorem syncMergePreviewS3Target_reads (policy : Option String) :
  (syncMergePreviewS3Target ext host target policy nowMs).AllOps Op.Reads
  := by
  unfold syncMergePreviewS3Target
  repeat' first
    | apply readHeadS3_reads
    | apply checkRemoteTrust_reads
    | apply buildLocalSnapshot_reads
    | apply extractChangeSetFromS3Snapshot_reads
    | apply baseChangeSet_reads
    | apply AllOps.bind
    | intro _
  all_goals simp [ensureSyncTables, vaultOpen, readState, Op.Reads]

theorem refuseDivergedS3_prepares (plan : S3PushPlan) (head : Option SyncHeadV1) :
  (refuseDivergedS3 ext target nowMs plan head).AllOps Op.Prepares
  := by
  unfold refuseDivergedS3
  repeat' first
    | apply createConflictArtifactS3_prepares
    | apply AllOps.bind
    | intro _
    | split
  all_goals simp

theorem preparePush_prepares :
  (preparePush ext target nowMs).AllOps Op.Prepares
  := by
  unfold preparePush
  repeat' first
    | exact reads_prepares buildLocalSnapshot_reads
    | apply createConflictArtifact_prepares
    | apply AllOps.bind
    | intro _
    | split
  all_goals simp [ensureSyncTables, vaultOpen, ensureTargetLayout, readHead, readState,
    Op.Prepares, Op.Reads]

theorem prepareS3Push_prepares :
  (prepareS3Push ext host target nowMs).AllOps Op.Prepares
  := by
  unfold prepareS3Push
  repeat' first
    | exact reads_prepares buildLocalSnapshotZip_reads
    | exact reads_prepares readHeadS3_reads
    | exact reads_prepares (checkRemoteTrust_reads _ _)
    | apply refuseDivergedS3_prepares
    | apply AllOps.bind
    | intro _
  all_goals simp [ensureSyncTables, vaultOpen, readDb, readState, Op.Prepares, Op.Reads]

theorem preparePull_prepares (mode : Option SyncAutoMergeMode) (strictAuth : Bool) :
  (preparePull ext target nowMs mode strictAuth).AllOps Op.Prepares
  := by
  unfold preparePull resolveConflict
  repeat' first
    | exact reads_prepares buildLocalSnapshot_reads
    | apply createConflictArtifact_prepares
    | exact reads_prepares (syncMergePreviewFileTarget_reads _)
    | exact reads_prepares (checkStrictAuth_reads _ _)
    | apply AllOps.bind
    | intro _
    | split
  all_goals simp [ensureSyncTables, mainDbPath, vaultOpen, readHead, readState,
    snapshotExists, Op.Prepares, Op.Reads]

theorem resolveConflictS3_prepares (mode : Option SyncAutoMergeMode) (plan : S3PullPlan)
    (head : SyncHeadV1) :
  (resolveConflictS3 ext host target nowMs mode plan head).AllOps Op.Prepares
  := by
  unfold resolveConflictS3
  repeat' first
    | apply createConflictArtifactS3_prepares
    | exact reads_prepares (syncMergePreviewS3Target_reads _)
    | apply AllOps.bind
    | intro _
    | split
  all_goals simp

theorem acceptHeadS3_reads (strictAuth : Bool) (trust : SyncTrustV1) :
  (acceptHeadS3 ext target strictAuth trust).AllOps Op.Reads
  := by
  unfold acceptHeadS3
  repeat' first
    | apply readHeadS3_reads
    | apply checkRemoteTrust_reads
    | apply checkStrictAuth_reads
    | apply AllOps.bind
    | intro _
  all_goals simp

theorem prepareS3Pull_prepares (mode : Option SyncAutoMergeMode) (strictAuth : Bool) :
  (prepareS3Pull ext host target nowMs mode strictAuth).AllOps Op.Prepares
  := by
  unfold prepareS3Pull
  repeat' first
    | exact reads_prepares buildLocalSnapshot_reads
    | exact reads_prepares (acceptHeadS3_reads _ _)
    | apply resolveConflictS3_prepares
    | apply AllOps.bind
    | intro _
  all_goals simp [ensureSyncTables, mainDbPath, vaultOpen, readState, Op.Prepares, Op.Reads]

theorem fetchS3Snapshot_prepares (mode : Option SyncAutoMergeMode) (strictAuth : Bool)
    (plan : S3PullPlan) :
  (fetchS3Snapshot ext host target nowMs mode strictAuth plan).AllOps Op.Prepares
  := by
  unfold fetchS3Snapshot
  repeat' first
    | exact reads_prepares (acceptHeadS3_reads _ _)
    | apply resolveConflictS3_prepares
    | apply AllOps.bind
    | intro _
  all_goals simp [s3Read, unpackZip, Op.Prepares, Op.Reads]

end Checks

/-! ### The steps that act -/

section Acts

open Prog (AllOps)

variable {target : String} {nowMs : Int64}

theorem publishSnapshot_publishes (id : String) (bundle : Dir Content) :
  (publishSnapshot id bundle).AllOps Op.Publishes
  := by
  unfold publishSnapshot
  repeat' first | apply AllOps.bind | intro _ | split
  all_goals simp [snapshotExists, removeSnapshot, createSnapshot, copyToSnapshot, Op.Publishes]

theorem composeS3Push_prepares_or_publishes (plan : S3PushPlan) :
  (composeS3Push ext host target nowMs plan).AllOps fun o => o.Prepares ∨ o.Publishes
  := by
  unfold composeS3Push
  repeat' first
    | exact (reads_prepares readHeadS3_reads).mono fun _ => Or.inl
    | exact (reads_prepares (checkRemoteTrust_reads _ _)).mono fun _ => Or.inl
    | exact (refuseDivergedS3_prepares _ _).mono fun _ => Or.inl
    | apply AllOps.bind
    | intro _
  all_goals simp [readZip, s3Write, readDb, Op.Prepares, Op.Reads, Op.Publishes]

theorem recordSync_records (direction id bundleRelpath manifestHash : String) :
  (recordSync direction id bundleRelpath manifestHash nowMs).AllOps Op.Records
  := by
  unfold recordSync
  repeat' first | apply AllOps.bind | intro _
  all_goals simp [writeState, writeSnapshotLog, Op.Records]

theorem replaceTop_reads_or_replaces (source : Source) (top : TopDir) :
  (replaceTop source top).AllOps fun o => o.Reads ∨ o.Replaces
  := by
  unfold replaceTop
  repeat' first | apply AllOps.bind | intro _ | split
  all_goals simp [sourceHas, topKind, removeTop, createTop, copyTop, Op.Reads, Op.Replaces]

theorem applySnapshotToVault_reads_or_replaces (source : Source) :
  (applySnapshotToVault source).AllOps fun o => o.Reads ∨ o.Replaces
  := by
  unfold applySnapshotToVault
  apply AllOps.bind
  · simp [validateLimits, Op.Reads]
  intro _
  apply AllOps.forM
  intro top _
  apply replaceTop_reads_or_replaces

theorem acquireS3Lock_locks (vaultId : String) (trust : SyncTrustV1) :
  (acquireS3Lock target vaultId trust nowMs).AllOps Op.Locks
  := by
  unfold acquireS3Lock clearExpiredLock createLock lockTaken readS3Lock
  repeat' first | apply AllOps.bind | intro _ | split
  all_goals simp [s3Read, s3Delete, s3WriteIfAbsent, Op.Locks]

theorem releaseS3Lock_locks (holder : String) :
  (releaseS3Lock target holder).AllOps Op.Locks
  := by
  unfold releaseS3Lock deleteOwnLock readS3Lock
  repeat' first | apply AllOps.bind | intro _ | split
  all_goals simp [s3Read, s3Delete, Op.Locks]

theorem writeHeadS3_allOps {P : Op → Prop} (h : ∀ object, P (.s3Write S3_HEAD_KEY object))
    (head : SyncHeadV1) :
  (writeHeadS3 head).AllOps P
  := by
  unfold writeHeadS3
  repeat' first | apply AllOps.bind | intro _
  · simp
  · simpa [s3Write] using h _

end Acts

/-! ### The lock and the head of a remote target -/

section Keys

open Op

variable {target : String} {nowMs : Int64} {o : Op}

theorem prepares_keepsLock (h : o.Prepares) :
  o.KeepsKey S3_LOCK_KEY
  := h.keepsKey lock_ne_conflict

theorem prepares_keepsHeadKey (h : o.Prepares) :
  o.KeepsKey S3_HEAD_KEY
  := h.keepsKey head_ne_conflict

theorem publishes_keepsLock (h : o.Publishes) :
  o.KeepsKey S3_LOCK_KEY
  := by
  cases o with
  | s3Write key _ =>
    obtain ⟨id, rfl⟩ := h
    apply snapshotKey_ne_lock
  | s3WriteIfAbsent _ _ | s3Delete _ => exact h.elim
  | _ => trivial

theorem publishes_keepsHeadKey (h : o.Publishes) :
  o.KeepsKey S3_HEAD_KEY
  := by
  cases o with
  | s3Write key _ =>
    obtain ⟨id, rfl⟩ := h
    apply snapshotKey_ne_head
  | s3WriteIfAbsent _ _ | s3Delete _ => exact h.elim
  | _ => trivial

theorem locks_keepsHeadKey (h : o.Locks) :
  o.KeepsKey S3_HEAD_KEY
  := by
  cases o with
  | s3WriteIfAbsent key _ | s3Delete key =>
    cases h
    simp [KeepsKey, S3_LOCK_KEY, S3_HEAD_KEY]
  | s3Write _ _ => exact h.elim
  | _ => trivial

theorem locks_keepsVault (h : o.Locks) :
  o.KeepsVault
  := by
  cases o <;> trivial

theorem reads_keepsKey (key : String) (h : o.Reads) :
  o.KeepsKey key
  := by
  cases o <;> trivial

theorem replaces_keepsKey (key : String) (h : o.Replaces) :
  o.KeepsKey key
  := by
  cases o <;> trivial

theorem publishes_keepsVault (h : o.Publishes) :
  o.KeepsVault
  := by
  cases o <;> trivial

theorem records_keepsKey (key : String) (h : o.Records) :
  o.KeepsKey key
  := by
  cases o <;> trivial

/-- The body of a push leaves the lock alone. -/
theorem publishS3Push_keepsLock (plan : S3PushPlan) :
  (publishS3Push ext host target nowMs plan).AllOps (KeepsKey S3_LOCK_KEY)
  := by
  unfold publishS3Push finishPush
  apply Prog.AllOps.bind
  · apply (composeS3Push_prepares_or_publishes plan).mono
    rintro o (h | h)
    · exact prepares_keepsLock h
    · exact publishes_keepsLock h
  intro head
  apply Prog.AllOps.bind
  · apply writeHeadS3_allOps
    simp [KeepsKey, S3_LOCK_KEY, S3_HEAD_KEY]
  intro _
  apply Prog.AllOps.bind
  · apply (recordSync_records _ _ _ _).mono
    intro o
    apply records_keepsKey
  · simp

/-- Replacing the trees of the vault leaves the remote target alone. -/
theorem finishPull_keepsKey (source : Source) (head : SyncHeadV1) (bundleRelpath key : String) :
  (finishPull source head bundleRelpath nowMs).AllOps (KeepsKey key)
  := by
  unfold finishPull
  apply Prog.AllOps.bind
  · apply (applySnapshotToVault_reads_or_replaces source).mono
    rintro o (h | h)
    · exact reads_keepsKey key h
    · exact replaces_keepsKey key h
  intro _
  apply Prog.AllOps.bind
  · simp [openDb, KeepsKey]
  intro _
  apply Prog.AllOps.bind
  · apply (recordSync_records _ _ _ _).mono
    intro o
    apply records_keepsKey
  · simp

/-- The body of a pull leaves the lock alone. -/
theorem applyS3Pull_keepsLock (mode : Option SyncAutoMergeMode) (strictAuth : Bool)
    (plan : S3PullPlan) :
  (applyS3Pull ext host target nowMs mode strictAuth plan).AllOps (KeepsKey S3_LOCK_KEY)
  := by
  unfold applyS3Pull
  apply Prog.AllOps.bind
  · apply (fetchS3Snapshot_prepares mode strictAuth plan).mono
    intro o
    apply prepares_keepsLock
  intro _
  apply finishPull_keepsKey

end Keys

end Sync

end KnowledgeCore
