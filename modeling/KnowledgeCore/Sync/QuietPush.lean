import KnowledgeCore.Sync.Quiet
import KnowledgeCore.Sync.Frame

/-!
# Quiet pushes

What a push does when it works alone and nothing fails: which checks it has to pass, and what
it leaves behind when it does.
-/

namespace KnowledgeCore

namespace Sync

variable {ext : Externals} {host : Host} {s : Site} {target : String} {nowMs : Int64}

/-! ### Under the lock -/

/-- Whether a call may take the lock: there is none, or its lease has expired. -/
def LockFree (target : String) (nowMs : Int64) (s : Site) : Prop :=
  ∃ lock, parseLock target s.bucket[S3_LOCK_KEY]? = .ok lock
    ∧ ∀ l ∈ lock, ¬ l.expiresAtMs > nowMs

/-- The site once a call has taken the lock. -/
def locked (lock : SyncS3WriteLockV1) (s : Site) : Site :=
  { s with bucket := s.bucket.insert S3_LOCK_KEY (.json lock.toJson 0) }

/-- The site once a call has released the lock. -/
def unlocked (s : Site) : Site :=
  { s with bucket := s.bucket.erase S3_LOCK_KEY }

@[simp] theorem getElem_locked (lock : SyncS3WriteLockV1) :
  (locked lock s).bucket[S3_LOCK_KEY]? = some (.json lock.toJson 0)
  := by
  simp [locked]

theorem eval_readS3Lock :
  (readS3Lock target).eval (perform ext host) s = (parseLock target s.bucket[S3_LOCK_KEY]?, s)
  := by
  simp [readS3Lock, Prog.eval_bind]

/-- A lock that may be taken is cleared, and then there is none. -/
theorem eval_clearExpiredLock_eq_ok {found : Option SyncS3WriteLockV1} {u : Unit} {s' : Site}
    (hl : parseLock target s.bucket[S3_LOCK_KEY]? = .ok found) :
  (clearExpiredLock target nowMs found).eval (perform ext host) s = (.ok u, s')
    ↔ (∀ l ∈ found, ¬ l.expiresAtMs > nowMs) ∧ s' = unlocked s
  := by
  cases found with
  | none =>
    have hs : unlocked s = s := by
      have hnone := eq_none_of_parseLock hl
      simp only [unlocked]
      congr 1
      apply Std.ExtTreeMap.ext_getElem?
      intro k
      rw [Std.ExtTreeMap.getElem?_erase]
      split
      · next h =>
        rw [Std.LawfulEqCmp.compare_eq_iff_eq] at h
        rw [← h, hnone]
      · rfl
    simp [clearExpiredLock, hs, eq_comm]
  | some l =>
    rw [clearExpiredLock]
    split
    · next h => simp [h]
    · next h =>
      rw [eval_s3Delete]
      constructor
      · intro heq
        cases heq
        constructor
        · rintro _ ⟨⟩
          apply h
        · rfl
      · rintro ⟨-, rfl⟩
        rfl

theorem eval_createLock_unlocked (lock : SyncS3WriteLockV1) :
  (createLock target lock).eval (perform ext host) (unlocked s) = (.ok lock, locked lock s)
  := by
  have hw : (s3WriteIfAbsent S3_LOCK_KEY (.json lock.toJson 0)).eval (perform ext host) (unlocked s)
      = (.ok true, locked lock s) := by
    rw [eval_s3WriteIfAbsent, if_neg (by simp [unlocked])]
    simp only [unlocked, locked, Prod.mk.injEq, true_and]
    congr 1
    apply Std.ExtTreeMap.ext_getElem?
    intro k
    simp only [Std.ExtTreeMap.getElem?_insert, Std.ExtTreeMap.getElem?_erase]
    split <;> rfl
  rw [createLock, SyncS3WriteLockV1.ofCanonical_toJson, Prog.ofExcept_ok, Prog.ret_bind,
    Prog.eval_bind_ok hw]
  rfl

theorem eval_acquireS3Lock_eq_ok {vaultId : String} {trust : SyncTrustV1}
    {lock : SyncS3WriteLockV1} {s' : Site} :
  (acquireS3Lock target vaultId trust nowMs).eval (perform ext host) s = (.ok lock, s')
    ↔ LockFree target nowMs s ∧ lock = lockOf vaultId trust nowMs ∧ s' = locked lock s
  := by
  simp only [acquireS3Lock, Prog.eval_bind_eq_ok, eval_readS3Lock, Prod.mk.injEq]
  constructor
  · rintro ⟨found, _, ⟨hl, rfl⟩, _, t, hc, h⟩
    obtain ⟨hfree, rfl⟩ := (eval_clearExpiredLock_eq_ok hl).mp hc
    rw [eval_createLock_unlocked] at h
    cases h
    exact ⟨⟨found, hl, hfree⟩, rfl, rfl⟩
  · rintro ⟨⟨found, hl, hfree⟩, rfl, rfl⟩
    use found, s, ⟨hl, rfl⟩, (), unlocked s, (eval_clearExpiredLock_eq_ok hl).mpr ⟨hfree, rfl⟩
    apply eval_createLock_unlocked

/-- A call that finds its own lock deletes it. -/
theorem eval_releaseS3Lock {lock : SyncS3WriteLockV1}
    (h : s.bucket[S3_LOCK_KEY]? = some (.json lock.toJson 0)) :
  (releaseS3Lock target lock.holder).eval (perform ext host) s = (.ok (), unlocked s)
  := by
  have hr : (readS3Lock target).eval (perform ext host) s = (.ok (some lock), s) := by
    rw [eval_readS3Lock, h, parseLock_toJson]
  rw [releaseS3Lock, Prog.eval_bind_ok hr, deleteOwnLock, if_pos rfl]
  rfl

/-- A program that leaves the lock alone comes to the same under the lock. -/
theorem eval_withS3Lock {α : Type} {f : SyncM α} {vaultId : String} {trust : SyncTrustV1}
    (hf : f.AllOps (Op.KeepsKey S3_LOCK_KEY)) (hfree : LockFree target nowMs s) :
  (withS3Lock target vaultId trust nowMs f).eval (perform ext host) s
    = ((f.eval (perform ext host) (locked (lockOf vaultId trust nowMs) s)).1,
        unlocked (f.eval (perform ext host) (locked (lockOf vaultId trust nowMs) s)).2)
  := by
  have ha : (acquireS3Lock target vaultId trust nowMs).eval (perform ext host) s
      = (.ok (lockOf vaultId trust nowMs), locked (lockOf vaultId trust nowMs) s) :=
    eval_acquireS3Lock_eq_ok.mpr ⟨hfree, rfl, rfl⟩
  have hkeep := eval_keepsKey ext host hf (locked (lockOf vaultId trust nowMs) s)
  rw [getElem_locked] at hkeep
  rw [withS3Lock, Prog.eval_bind_ok ha, Prog.eval_bind_ok (Prog.eval_attempt _ _),
    Prog.eval_bind_ok (Prog.eval_attempt _ _), eval_releaseS3Lock hkeep, Prog.eval_ofExcept]
  cases (f.eval (perform ext host) (locked (lockOf vaultId trust nowMs) s)).1 <;> rfl

/-- A call that may not take the lock fails, and then taking it is all that it has tried. -/
theorem eval_withS3Lock_not_free (ext : Externals) (host : Host) {α : Type} (f : SyncM α)
    (vaultId : String) (trust : SyncTrustV1) (hfree : ¬ LockFree target nowMs s) :
  ∃ e, (withS3Lock target vaultId trust nowMs f).eval (perform ext host) s
    = (.error e, ((acquireS3Lock target vaultId trust nowMs).eval (perform ext host) s).2)
  := by
  rcases ha : (acquireS3Lock target vaultId trust nowMs).eval (perform ext host) s with
    ⟨e | lock, s'⟩
  · use e
    rw [withS3Lock, Prog.eval_bind_error ha]
  · exact absurd (eval_acquireS3Lock_eq_ok.mp ha).1 hfree

/-! ### File targets -/

/-- What a push to a file target finds when it compares: the database of the vault, its
configuration, the head of the target, and the exported bundle with its hash. -/
structure PushReads (ext : Externals) (host : Host) (s : Site) (file : SqliteFile)
    (vault : VaultJsonV3) (head : Option SyncHeadV1) (bundle : Dir Content) (hash : String) :
  Prop
  where
  opened : Vault.dbFile s.vault = some file
  configured : Vault.vaultOpen host s.vault = .ok vault
  found : readHeadFile s.target = .ok head
  exported : localSnapshot ext host s.vault false = .ok (bundle, hash)

/-- Whether a database and a head have diverged, given the hash of the local manifest. -/
def Diverged (head : Option SyncHeadV1) (db : Db) (hash : String) : Prop :=
  shouldConflict head (db.readState "sync_remote_head_seen")
    (db.readState "sync_last_applied_manifest_hash") hash = true

theorem preparePush_eq_ok {bundle : Dir Content} {hash : String} {s' : Site} :
  (preparePush ext target nowMs).eval (perform ext host) s = (.ok (bundle, hash), s')
    ↔ s' = s ∧ ∃ file vault head, PushReads ext host s file vault head bundle hash
      ∧ ¬ Diverged head file.db hash
  := by
  simp only [preparePush, Prog.eval_bind_eq_ok, eval_ensureSyncTables_eq_ok, eval_vaultOpen,
    eval_ensureTargetLayout, eval_readHead, eval_readState_eq_ok, eval_buildLocalSnapshot,
    Prod.mk.injEq]
  constructor
  · rintro ⟨_, _, ⟨rfl, -⟩, vault, _, ⟨hv, rfl⟩, _, _, ⟨-, rfl⟩, head, _, ⟨hh, rfl⟩, _, _,
      ⟨rfl, file, hf, rfl⟩, _, _, ⟨rfl, file', hf', rfl⟩, ⟨_, _⟩, _, ⟨hb, rfl⟩, h⟩
    obtain rfl : file = file' := by simpa [hf] using hf'
    split at h
    · simp [Prog.eval_bind_eq_ok] at h
    · next hc =>
      cases h
      use rfl, file, vault, head, ⟨hf, hv, hh, hb⟩, hc
  · rintro ⟨rfl, file, vault, head, h, hc⟩
    simp [h.opened, h.configured, h.found, h.exported, show _ = false by simpa [Diverged] using hc]

/-- The head a push to a file target moves to. -/
def pushedHead (ext : Externals) (nowMs : Int64) (hash : String) : SyncHeadV1 :=
  fileHead (snapshotIdForManifest ext hash nowMs) hash nowMs

/-- The site after a push to a file target. -/
def pushed (ext : Externals) (nowMs : Int64) (file : SqliteFile) (bundle : Dir Content)
    (hash : String) (s : Site) : Site :=
  let head := pushedHead ext nowMs hash
  recorded ext "push" head.snapshotId ("snapshots/" ++ head.snapshotId) hash nowMs file
    ((s.setSnapshot head.snapshotId (Dir.copyTree bundle [] Dir.empty)).setHead
      (.json head.toJson 0))

theorem setSnapshot_setSnapshot (id : String) (d d' : Dir Content) :
  (s.setSnapshot id d).setSnapshot id d' = s.setSnapshot id d'
  := by
  simp only [Site.setSnapshot]
  congr 2
  apply Std.ExtTreeMap.ext_getElem?
  intro k
  simp only [Std.ExtTreeMap.getElem?_insert]
  split <;> rfl

theorem setSnapshot_eraseSnapshot (id : String) (d : Dir Content) :
  (s.eraseSnapshot id).setSnapshot id d = s.setSnapshot id d
  := by
  simp only [Site.setSnapshot, Site.eraseSnapshot]
  congr 2
  apply Std.ExtTreeMap.ext_getElem?
  intro k
  simp only [Std.ExtTreeMap.getElem?_insert, Std.ExtTreeMap.getElem?_erase]
  split <;> rfl

@[simp] theorem snapshot_setSnapshot (id : String) (d : Dir Content) :
  (s.setSnapshot id d).snapshot id = d
  := by
  simp [Site.snapshot, Site.setSnapshot]

@[simp] theorem snapshot_eraseSnapshot (id : String) :
  (s.eraseSnapshot id).snapshot id = Dir.empty
  := by
  simp [Site.snapshot, Site.eraseSnapshot]

theorem snapshot_of_not_contains {id : String} (h : s.target.snapshots.contains id = false) :
  s.snapshot id = Dir.empty
  := by
  rw [Site.snapshot, Std.ExtTreeMap.getD_eq_fallback_of_contains_eq_false h]

/-- A published snapshot holds the bundle and nothing else. -/
theorem eval_publishSnapshot (id : String) (bundle : Dir Content) :
  (publishSnapshot id bundle).eval (perform ext host) s
    = (.ok (), s.setSnapshot id (Dir.copyTree bundle [] Dir.empty))
  := by
  rw [publishSnapshot, Prog.eval_bind_ok (eval_snapshotExists id)]
  cases h : s.target.snapshots.contains id with
  | true =>
    rw [if_pos rfl, Prog.eval_bind_ok (eval_removeSnapshot id),
      Prog.eval_bind_ok (eval_createSnapshot id), eval_copyToSnapshot, snapshot_setSnapshot,
      snapshot_eraseSnapshot, setSnapshot_setSnapshot, setSnapshot_eraseSnapshot]
  | false =>
    rw [if_neg (by decide)]
    change Prog.eval _ (createSnapshot id >>= fun _ => copyToSnapshot id bundle) s = _
    rw [Prog.eval_bind_ok (eval_createSnapshot id), eval_copyToSnapshot, snapshot_setSnapshot,
      snapshot_of_not_contains h, setSnapshot_setSnapshot]

/-- Once the head has been moved, nothing fails any more. -/
theorem eval_finishPush {moveHead : SyncM Unit} {file : SqliteFile} {s' : Site}
    {head : SyncHeadV1} {bundleRelpath : String}
    (hm : moveHead.eval (perform ext host) s = (.ok (), s'))
    (hf : Vault.dbFile s'.vault = some file) :
  (finishPush moveHead head bundleRelpath nowMs).eval (perform ext host) s
    = (.ok (pushResult head),
        recorded ext "push" head.snapshotId bundleRelpath head.manifestHash nowMs file s')
  := by
  rw [finishPush, Prog.eval_bind_ok hm, Prog.eval_bind_ok (eval_recordSync _ _ _ _ _ hf)]
  rfl

/-- A push that passes its checks succeeds. -/
theorem eval_syncPush {file : SqliteFile} {vault : VaultJsonV3} {head : Option SyncHeadV1}
    {bundle : Dir Content} {hash : String}
    (h : PushReads ext host s file vault head bundle hash) (hc : ¬ Diverged head file.db hash) :
  (syncPush ext target nowMs).eval (perform ext host) s
    = (.ok (pushResult (pushedHead ext nowMs hash)), pushed ext nowMs file bundle hash s)
  := by
  have hp : (preparePush ext target nowMs).eval (perform ext host) s = (.ok (bundle, hash), s) :=
    preparePush_eq_ok.mpr ⟨rfl, file, vault, head, h, hc⟩
  rw [syncPush, Prog.eval_bind_ok hp]
  change Prog.eval _ (publishSnapshot _ bundle >>= fun _ => finishPush _ _ _ nowMs) s = _
  rw [Prog.eval_bind_ok (eval_publishSnapshot _ bundle), eval_finishPush (eval_writeHead _)]
  · rfl
  · apply h.opened

/-- A push that does not pass its checks fails, and leaves the vault and the head alone. -/
theorem eval_syncPush_refused (target : String) (nowMs : Int64)
    (h : ¬ ∃ file vault head bundle hash, PushReads ext host s file vault head bundle hash
      ∧ ¬ Diverged head file.db hash) :
  ∃ e s', (syncPush ext target nowMs).eval (perform ext host) s = (.error e, s')
    ∧ s'.vault = s.vault ∧ s'.target.head = s.target.head
  := by
  have hprepares : (preparePush ext target nowMs).AllOps Op.Prepares := preparePush_prepares
  have hvault := eval_keepsVault ext host (hprepares.mono fun _ ho => ho.keepsVault) s
  have hhead := eval_keepsHead ext host (hprepares.mono fun _ ho => ho.keepsHead) s
  rcases hp : (preparePush ext target nowMs).eval (perform ext host) s with ⟨e | ⟨bundle, hash⟩, s'⟩
  · rw [hp] at hvault hhead
    use e, s'
    rw [syncPush, Prog.eval_bind_error hp]
    exact ⟨rfl, hvault, hhead⟩
  · obtain ⟨-, file, vault, head, hr, hc⟩ := preparePush_eq_ok.mp hp
    exact absurd ⟨file, vault, head, bundle, hash, hr, hc⟩ h

/-! ### Remote targets -/

/-- What a push to a remote target finds before it takes the lock. -/
structure S3PushReads (ext : Externals) (host : Host) (nowMs : Int64) (s : Site)
    (file : SqliteFile) (plan : S3PushPlan) (head : Option SyncHeadV1) : Prop where
  opened : Vault.dbFile s.vault = some file
  configured : Vault.vaultOpen host s.vault = .ok plan.vault
  derived : SyncAuth.deriveLocalSyncTrust ext host plan.vault nowMs = .ok plan.localTrust
  enrolled : SyncAuth.localSyncAuthor file.db = .ok plan.localAuthor
  seen : file.db.readState "sync_remote_head_seen" = plan.seenRemote
  lastApplied :
    file.db.readState "sync_last_applied_manifest_hash" = plan.lastAppliedManifest
  exported :
    localSnapshot ext host s.vault true = .ok (plan.localBundle, plan.localManifestHash)
  found : parseHead "failed parsing s3 sync head" s.bucket[S3_HEAD_KEY]? = .ok head
  trusted : SyncAuth.ensureRemoteTrustMatches ext file.db head plan.localTrust = .ok ()

@[simp] theorem eval_readHeadS3 :
  readHeadS3.eval (perform ext host) s
    = (parseHead "failed parsing s3 sync head" s.bucket[S3_HEAD_KEY]?, s)
  := by
  simp [readHeadS3, Prog.eval_bind]

theorem eval_checkRemoteTrust_eq_ok {head : Option SyncHeadV1} {trust : SyncTrustV1} {u : Unit}
    {s' : Site} :
  (checkRemoteTrust ext head trust).eval (perform ext host) s = (.ok u, s')
    ↔ s' = s ∧ ∃ file, Vault.dbFile s.vault = some file
      ∧ SyncAuth.ensureRemoteTrustMatches ext file.db head trust = .ok ()
  := by
  simp only [checkRemoteTrust, Prog.eval_bind_eq_ok, eval_readDb_eq_ok, Prog.eval_ofExcept,
    Prod.mk.injEq]
  constructor
  · rintro ⟨_, _, ⟨rfl, file, hf, rfl⟩, ht, rfl⟩
    use rfl, file, hf, ht
  · rintro ⟨rfl, file, hf, ht⟩
    use file.db, s', ⟨rfl, file, hf, rfl⟩, ht

theorem eval_refuseDivergedS3_eq_ok {plan : S3PushPlan} {head : Option SyncHeadV1} {u : Unit}
    {s' : Site} :
  (refuseDivergedS3 ext target nowMs plan head).eval (perform ext host) s = (.ok u, s')
    ↔ s' = s ∧ shouldConflict head plan.seenRemote plan.lastAppliedManifest
        plan.localManifestHash = false
  := by
  rw [refuseDivergedS3]
  split
  · next h => simp [Prog.eval_bind_eq_ok, h]
  · next h => simp [h, eq_comm]

theorem prepareS3Push_eq_ok {plan : S3PushPlan} {s' : Site} :
  (prepareS3Push ext host target nowMs).eval (perform ext host) s = (.ok plan, s')
    ↔ s' = s ∧ ∃ file head, S3PushReads ext host nowMs s file plan head
      ∧ ¬ Diverged head file.db plan.localManifestHash
  := by
  simp only [prepareS3Push, Prog.eval_bind_eq_ok, eval_ensureSyncTables_eq_ok, eval_vaultOpen,
    eval_readDb_eq_ok, eval_readState_eq_ok, eval_buildLocalSnapshotZip, eval_readHeadS3,
    eval_checkRemoteTrust_eq_ok, eval_refuseDivergedS3_eq_ok, Prog.eval_ofExcept, Prog.pure_eq,
    Prog.eval_ret, Prod.mk.injEq, Except.ok.injEq]
  constructor
  · rintro ⟨_, _, ⟨rfl, -⟩, vault, _, ⟨hv, rfl⟩, trust, _, ⟨ht, rfl⟩, _, _, ⟨rfl, file, hf, rfl⟩,
      author, _, ⟨ha, rfl⟩, _, _, ⟨rfl, file₁, hf₁, rfl⟩, _, _, ⟨rfl, file₂, hf₂, rfl⟩,
      ⟨bundle, hash⟩, _, ⟨hb, rfl⟩, head, _, ⟨hh, rfl⟩, _, _, ⟨rfl, file₃, hf₃, hm⟩, _, _,
      ⟨rfl, hc⟩, rfl, rfl⟩
    obtain rfl : file = file₁ := by simpa [hf] using hf₁
    obtain rfl : file = file₂ := by simpa [hf] using hf₂
    obtain rfl : file = file₃ := by simpa [hf] using hf₃
    use rfl, file, head, ⟨hf, hv, ht, ha, rfl, rfl, hb, hh, hm⟩
    simpa [Diverged] using hc
  · rintro ⟨rfl, file, head, h, hc⟩
    have hc : shouldConflict head plan.seenRemote plan.lastAppliedManifest
        plan.localManifestHash = false := by
      simpa [Diverged, h.seen, h.lastApplied] using hc
    refine ⟨(), s', ⟨rfl, file, h.opened⟩, _, s', ⟨h.configured, rfl⟩, _, s', ⟨h.derived, rfl⟩,
      _, s', ⟨rfl, file, h.opened, rfl⟩, _, s', ⟨h.enrolled, rfl⟩, _, s',
      ⟨rfl, file, h.opened, h.seen⟩, _, s', ⟨rfl, file, h.opened, h.lastApplied⟩, _, s',
      ⟨h.exported, rfl⟩, _, s', ⟨h.found, rfl⟩, (), s', ⟨rfl, file, h.opened, h.trusted⟩, (), s',
      ⟨rfl, hc⟩, rfl, rfl⟩

/-- What a push to a remote target needs to go through: it finds nothing against it, the head
has not diverged, the lock can be taken, and the new head can be signed. -/
structure S3PushAccepts (ext : Externals) (host : Host) (target : String) (nowMs : Int64)
    (s : Site) (file : SqliteFile) (plan : S3PushPlan) (head : Option SyncHeadV1)
    (newHead : SyncHeadV1) : Prop extends S3PushReads ext host nowMs s file plan head where
  agrees : ¬ Diverged head file.db plan.localManifestHash
  free : LockFree target nowMs s
  signed :
    signHead ext host file.db (snapshotIdForManifest ext plan.localManifestHash nowMs)
      plan.localManifestHash nowMs plan.localTrust plan.localAuthor = .ok newHead

theorem signHead_eq_ok {db : Db} {snapshotId manifestHash : String} {trust : SyncTrustV1}
    {author : Trust.AuthorIdentity} {head : SyncHeadV1}
    (h : signHead ext host db snapshotId manifestHash nowMs trust author = .ok head) :
  ∃ signature, head = signedHead snapshotId manifestHash nowMs trust author signature
  := by
  simp only [signHead, AppResult.bind_eq_ok] at h
  obtain ⟨_, -, signature, -, h⟩ := h
  cases h
  use signature

/-- The remote target once the snapshot has been uploaded. -/
def uploaded (ext : Externals) (nowMs : Int64) (plan : S3PushPlan) (s : Site) : Site :=
  let id := snapshotIdForManifest ext plan.localManifestHash nowMs
  { s with bucket :=
    s.bucket.insert (snapshotKey id) (Export.createDeterministicZip plan.localBundle) }

/-- The site after a push to a remote target. -/
def pushedS3 (ext : Externals) (nowMs : Int64) (file : SqliteFile) (plan : S3PushPlan)
    (newHead : SyncHeadV1) (s : Site) : Site :=
  let t := uploaded ext nowMs plan
    (locked (lockOf plan.vault.vaultId plan.localTrust nowMs) s)
  let moved := { t with bucket := t.bucket.insert S3_HEAD_KEY (.json newHead.toJson 0) }
  unlocked (recorded ext "push" newHead.snapshotId (snapshotKey newHead.snapshotId)
    newHead.manifestHash nowMs file moved)

theorem eval_composeS3Push_eq_ok {plan : S3PushPlan} {newHead : SyncHeadV1} {s' : Site} :
  (composeS3Push ext host target nowMs plan).eval (perform ext host) s = (.ok newHead, s')
    ↔ s' = uploaded ext nowMs plan s ∧ ∃ file head,
      Vault.dbFile s.vault = some file
        ∧ parseHead "failed parsing s3 sync head" s.bucket[S3_HEAD_KEY]? = .ok head
        ∧ SyncAuth.ensureRemoteTrustMatches ext file.db head plan.localTrust = .ok ()
        ∧ shouldConflict head plan.seenRemote plan.lastAppliedManifest plan.localManifestHash
          = false
        ∧ signHead ext host file.db (snapshotIdForManifest ext plan.localManifestHash nowMs)
          plan.localManifestHash nowMs plan.localTrust plan.localAuthor = .ok newHead
  := by
  simp only [composeS3Push, Prog.eval_bind_eq_ok, eval_readHeadS3, eval_checkRemoteTrust_eq_ok,
    eval_refuseDivergedS3_eq_ok, eval_readZip, eval_s3Write, eval_readDb_eq_ok,
    Prog.eval_ofExcept, Prod.mk.injEq]
  constructor
  · rintro ⟨head, _, ⟨hh, rfl⟩, _, _, ⟨rfl, file, hf, ht⟩, _, _, ⟨rfl, hc⟩, _, _, ⟨hz, rfl⟩, _, _,
      ⟨-, rfl⟩, _, _, ⟨rfl, file', hf', rfl⟩, hs, rfl⟩
    cases hz
    obtain rfl : file = file' := by simpa [hf] using hf'
    exact ⟨rfl, file, head, hf, hh, ht, hc, hs⟩
  · rintro ⟨rfl, file, head, hf, hh, ht, hc, hs⟩
    exact ⟨head, s, ⟨hh, rfl⟩, (), s, ⟨rfl, file, hf, ht⟩, (), s, ⟨rfl, hc⟩, _, s, ⟨rfl, rfl⟩, (),
      _, ⟨trivial, rfl⟩, _, _, ⟨rfl, file, hf, rfl⟩, hs, rfl⟩

theorem eval_writeHeadS3 (head : SyncHeadV1) :
  (writeHeadS3 head).eval (perform ext host) s
    = (.ok (), { s with bucket := s.bucket.insert S3_HEAD_KEY (.json head.toJson 0) })
  := by
  rw [writeHeadS3, SyncHeadV1.ofCanonical_toJson]
  rfl

theorem getElem_head_locked (lock : SyncS3WriteLockV1) :
  (locked lock s).bucket[S3_HEAD_KEY]? = s.bucket[S3_HEAD_KEY]?
  := by
  simp [locked, Std.ExtTreeMap.getElem?_insert, S3_LOCK_KEY, S3_HEAD_KEY]

/-- A push that passes its checks succeeds. -/
theorem eval_syncPushS3Target {file : SqliteFile} {plan : S3PushPlan} {head : Option SyncHeadV1}
    {newHead : SyncHeadV1} (h : S3PushAccepts ext host target nowMs s file plan head newHead) :
  (syncPushS3Target ext host target nowMs).eval (perform ext host) s
    = (.ok (pushResult newHead), pushedS3 ext nowMs file plan newHead s)
  := by
  have hp : (prepareS3Push ext host target nowMs).eval (perform ext host) s = (.ok plan, s) :=
    prepareS3Push_eq_ok.mpr ⟨rfl, file, head, h.toS3PushReads, h.agrees⟩
  let lock := lockOf plan.vault.vaultId plan.localTrust nowMs
  have hcompose : (composeS3Push ext host target nowMs plan).eval (perform ext host)
      (locked lock s) = (.ok newHead, uploaded ext nowMs plan (locked lock s)) := by
    apply eval_composeS3Push_eq_ok.mpr
    refine ⟨rfl, file, head, h.opened, ?_, h.trusted, ?_, h.signed⟩
    · rw [getElem_head_locked, h.found]
    · simpa [Diverged, h.seen, h.lastApplied] using h.agrees
  have hbody : (publishS3Push ext host target nowMs plan).eval (perform ext host) (locked lock s)
      = (.ok (pushResult newHead), recorded ext "push" newHead.snapshotId
          (snapshotKey newHead.snapshotId) newHead.manifestHash nowMs file
          { uploaded ext nowMs plan (locked lock s) with
            bucket := (uploaded ext nowMs plan (locked lock s)).bucket.insert S3_HEAD_KEY
              (.json newHead.toJson 0) }) := by
    rw [publishS3Push, Prog.eval_bind_ok hcompose, eval_finishPush (eval_writeHeadS3 newHead)]
    apply h.opened
  rw [syncPushS3Target, Prog.eval_bind_ok hp,
    eval_withS3Lock (publishS3Push_keepsLock plan) h.free, hbody]
  rfl

/-- A push that does not pass its checks fails, and leaves the vault and the head alone. -/
theorem eval_syncPushS3Target_refused
    (h : ¬ ∃ file plan head newHead,
      S3PushAccepts ext host target nowMs s file plan head newHead) :
  ∃ e s', (syncPushS3Target ext host target nowMs).eval (perform ext host) s = (.error e, s')
    ∧ s'.vault = s.vault ∧ s'.bucket[S3_HEAD_KEY]? = s.bucket[S3_HEAD_KEY]?
  := by
  have frame {α : Type} (p : SyncM α)
      (hv : p.AllOps Op.KeepsVault) (hk : p.AllOps (Op.KeepsKey S3_HEAD_KEY)) (t : Site) :
      (p.eval (perform ext host) t).2.vault = t.vault
        ∧ (p.eval (perform ext host) t).2.bucket[S3_HEAD_KEY]? = t.bucket[S3_HEAD_KEY]? := by
    constructor
    · exact eval_keepsVault ext host hv t
    · exact eval_keepsKey ext host hk t
  have hprepare := frame (prepareS3Push ext host target nowMs)
    (prepareS3Push_prepares.mono fun _ => Op.Prepares.keepsVault)
    (prepareS3Push_prepares.mono fun _ => prepares_keepsHeadKey) s
  rcases hp : (prepareS3Push ext host target nowMs).eval (perform ext host) s with ⟨e | plan, s'⟩
  · rw [hp] at hprepare
    use e, s'
    rw [syncPushS3Target, Prog.eval_bind_error hp]
    exact ⟨rfl, hprepare⟩
  obtain ⟨rfl, file, head, hr, hc⟩ := prepareS3Push_eq_ok.mp hp
  rw [syncPushS3Target, Prog.eval_bind_ok hp]
  by_cases hfree : LockFree target nowMs s'
  · rw [eval_withS3Lock (publishS3Push_keepsLock plan) hfree]
    let lock := lockOf plan.vault.vaultId plan.localTrust nowMs
    have hcompose := frame (composeS3Push ext host target nowMs plan)
      ((composeS3Push_prepares_or_publishes plan).mono fun o ho =>
        ho.elim Op.Prepares.keepsVault publishes_keepsVault)
      ((composeS3Push_prepares_or_publishes plan).mono fun o ho =>
        ho.elim prepares_keepsHeadKey publishes_keepsHeadKey) (locked lock s')
    rcases hb : (composeS3Push ext host target nowMs plan).eval (perform ext host)
        (locked lock s') with ⟨e | newHead, t⟩
    · have hbody : (publishS3Push ext host target nowMs plan).eval (perform ext host)
          (locked lock s') = (.error e, t) := by
        rw [publishS3Push, Prog.eval_bind_error hb]
      rw [hbody]
      rw [hb, getElem_head_locked] at hcompose
      refine ⟨e, unlocked t, rfl, hcompose.1, ?_⟩
      rw [← hcompose.2]
      simp [unlocked, Std.ExtTreeMap.getElem?_erase, S3_LOCK_KEY, S3_HEAD_KEY]
    · obtain ⟨-, file', head', hf', -, -, -, hs⟩ := eval_composeS3Push_eq_ok.mp hb
      obtain rfl : file = file' := by
        have : Vault.dbFile s'.vault = some file' := hf'
        simpa [hr.opened] using this
      exact absurd ⟨file, plan, head, newHead, hr, hc, hfree, hs⟩ h
  · have hacquire := frame (acquireS3Lock target plan.vault.vaultId plan.localTrust nowMs)
      ((acquireS3Lock_locks _ _).mono fun _ => locks_keepsVault)
      ((acquireS3Lock_locks _ _).mono fun _ => locks_keepsHeadKey) s'
    obtain ⟨e, he⟩ := eval_withS3Lock_not_free ext host
      (publishS3Push ext host target nowMs plan) plan.vault.vaultId plan.localTrust hfree
    exact ⟨e, _, he, hacquire⟩

end Sync

end KnowledgeCore
