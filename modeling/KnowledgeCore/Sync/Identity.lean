import KnowledgeCore.Sync.Discard
import KnowledgeCore.Sync.Signing

/-!
# The identity of a vault over its synchronisations

Devices, certificates and keys in custody are rows of the database, and a pull replaces the
database by that of the snapshot. So a vault keeps its identity over a history of pushes and
pulls if every snapshot it pulls carries the identity along.
-/

namespace KnowledgeCore

namespace Sync

variable {ext : Externals} {host : Host} {s : Site} {target : String} {nowMs : Int64}

/-! ### Identity -/

/-- A database has the devices and keys of another one, and names the device of the same author. -/
structure HasIdentity (db db' : Db) : Prop where
  author : ∀ author, SyncAuth.localSyncAuthor db = .ok author →
    ∃ author', SyncAuth.localSyncAuthor db' = .ok author' ∧ author'.deviceId = author.deviceId
  devices : ∀ (deviceId : String) (device : TrustedDeviceRow),
    db.trustedDevices[deviceId]? = some device → db'.trustedDevices[deviceId]? = some device
  keys : ∀ (deviceId : String) (row : SyncSigningKeyRow),
    db.syncSigningKeys[deviceId]? = some row → db'.syncSigningKeys[deviceId]? = some row

/-- The tables of the identity are the same. -/
def SameRegistry (db db' : Db) : Prop :=
  db'.trustedDevices = db.trustedDevices ∧ db'.deviceCertificates = db.deviceCertificates
    ∧ db'.syncSigningKeys = db.syncSigningKeys

theorem HasIdentity.refl (db : Db) :
  HasIdentity db db
  where
  author author h := ⟨author, h, rfl⟩
  devices _ _ h := h
  keys _ _ h := h

theorem HasIdentity.trans {db db' db'' : Db} (h : HasIdentity db db')
    (h' : HasIdentity db' db'') :
  HasIdentity db db''
  where
  author := by
    intro author ha
    obtain ⟨author', ha', hd⟩ := h.author author ha
    obtain ⟨author'', ha'', hd'⟩ := h'.author author' ha'
    use author'', ha'', hd'.trans hd
  devices _ _ hrow := h'.devices _ _ (h.devices _ _ hrow)
  keys _ _ hrow := h'.keys _ _ (h.keys _ _ hrow)

/-- Only the registry matters to the identity. -/
theorem hasIdentity_congr {db db' db'' : Db} (h : SameRegistry db' db'') :
  HasIdentity db db'' ↔ HasIdentity db db'
  := by
  obtain ⟨hdevices, hcertificates, hkeys⟩ := h
  have hauthor : SyncAuth.localSyncAuthor db'' = SyncAuth.localSyncAuthor db' := by
    rw [SyncAuth.localSyncAuthor, Trust.verifiedAuthorIdentity, Trust.verifiedIdentities,
      hdevices, hcertificates]
    rfl
  constructor
  · rintro ⟨ha, hd, hk⟩
    rw [hauthor] at ha
    rw [hdevices] at hd
    rw [hkeys] at hk
    exact ⟨ha, hd, hk⟩
  · rintro ⟨ha, hd, hk⟩
    constructor
    · rw [hauthor]
      exact ha
    · rw [hdevices]
      exact hd
    · rw [hkeys]
      exact hk

/-- What is asked of a database after another one: it has its identity, and the keys that could
be opened with a passphrase still can. -/
structure KeepsIdentity (ext : Externals) (db db' : Db) : Prop extends HasIdentity db db' where
  usable : ∀ (deviceId : String) (passphrase : Option String) (seed : Vector UInt8 32),
    SyncKeyCustody.loadSyncSigningKey ext db deviceId passphrase = .ok (some seed) →
    SyncKeyCustody.loadSyncSigningKey ext db' deviceId passphrase = .ok (some seed)

/-- With the rows a key stays usable. -/
theorem HasIdentity.keepsIdentity {db db' : Db} (h : HasIdentity db db') :
  KeepsIdentity ext db db'
  where
  toHasIdentity := h
  usable := by
    intro deviceId passphrase seed hload
    obtain ⟨device, hdevice, -, -⟩ :=
      SyncAuth.trustedDevicePublicKey_eq_ok (SyncKeyCustody.loadSyncSigningKey_eq_some hload)
    have hpub : Trust.trustedDevicePublicKey db' deviceId
        = Trust.trustedDevicePublicKey db deviceId := by
      simp [Trust.trustedDevicePublicKey, Trust.loadDevice, hdevice, h.devices _ _ hdevice]
    have hactive : SyncKeyCustody.activeRow db' deviceId
        = SyncKeyCustody.activeRow db deviceId := by
      cases hrow : db.syncSigningKeys[deviceId]? with
      | none =>
        rw [SyncKeyCustody.loadSyncSigningKey, SyncKeyCustody.activeRow, hrow] at hload
        cases hload
      | some row => simp [SyncKeyCustody.activeRow, hrow, h.keys _ _ hrow]
    rw [SyncKeyCustody.loadSyncSigningKey, hactive, hpub]
    exact hload

/-! ### Replacing the database -/

/-- The database of a vault has the identity of a database. -/
def HoldsIdentity (db : Db) (vault : Dir Content) : Prop :=
  ∃ file, Vault.dbFile vault = some file ∧ HasIdentity db file.db

/-- A snapshot leaves an identity alone: it has no database tree, or a database in it that has
the identity as well. -/
def CarriesIdentity (db : Db) (src : Dir Content) : Prop :=
  src.contains TopDir.db.path = true →
    src.isFile TopDir.db.path = false ∧ HoldsIdentity db src

theorem sameRegistry_recordedFile (direction id bundleRelpath hash : String)
    (file : SqliteFile) :
  SameRegistry file.db (recordedFile ext direction id bundleRelpath hash nowMs file).db
  := by
  simp [SameRegistry, recordedFile, Db.writeState, Db.writeSnapshotLog]

theorem sameRegistry_openDbFile {key : Option String} {file file' : SqliteFile}
    (h : Vault.openDbFile ext key (some (.sqlite file)) = .ok file') :
  SameRegistry file.db file'.db
  := by
  rw [(Vault.openDbFile_tables h).1]
  exact ⟨rfl, rfl, rfl⟩

/-- Recording a synchronisation does not matter to the identity. -/
theorem holdsIdentity_recorded_iff {db : Db} {vault : Dir Content} {file : SqliteFile}
    {direction id bundleRelpath hash : String} :
  HoldsIdentity db (vault.write Vault.dbPath
      (.sqlite (recordedFile ext direction id bundleRelpath hash nowMs file)))
    ↔ HasIdentity db file.db
  := by
  have hsame : SameRegistry file.db
      (recordedFile ext direction id bundleRelpath hash nowMs file).db :=
    sameRegistry_recordedFile direction id bundleRelpath hash file
  rw [HoldsIdentity, ← hasIdentity_congr hsame, dbFile_write]
  simp

/-- A vault with an identity still has it after the trees of a snapshot have been put in place,
all of them or not, exactly when the snapshot carries it. -/
theorem holdsIdentity_applyTrees_iff {db : Db} {src vault : Dir Content}
    (h : HoldsIdentity db vault) :
  HoldsIdentity db (applyTrees src TopDir.all vault).2 ↔ CarriesIdentity db src
  := by
  simp only [CarriesIdentity, HoldsIdentity, Vault.dbFile_eq_some]
  cases hdb : src.contains TopDir.db.path with
  | true =>
    simp only [get_dbPath_applyTrees hdb, forall_const]
    cases src.isFile TopDir.db.path <;> simp
  | false =>
    obtain ⟨file, hf, hid⟩ := h
    simp only [get_dbPath_applyTrees_of_not hdb, Bool.false_eq_true, IsEmpty.forall_iff, iff_true]
    use file, Vault.dbFile_eq_some.mp hf

/-- The database a vault has after it has been opened has an identity exactly when the one
before did: a new database has none. -/
theorem hasIdentity_openDbFile_iff {db : Db} {vault : Dir Content} {key : Option String}
    {file : SqliteFile} {deviceId : String} {device : TrustedDeviceRow}
    (hdevice : db.trustedDevices[deviceId]? = some device)
    (hopen : Vault.openDbFile ext key (vault.get Vault.dbPath) = .ok file) :
  HasIdentity db file.db ↔ HoldsIdentity db vault
  := by
  simp only [HoldsIdentity, Vault.dbFile_eq_some]
  match hget : vault.get Vault.dbPath with
  | none =>
    rw [hget] at hopen
    simp only [Vault.openDbFile, AppResult.bind_eq_ok] at hopen
    obtain ⟨new, hnew, hopen⟩ := hopen
    cases hopen
    apply iff_of_false
    · intro hid
      have hrow := hid.devices _ _ hdevice
      rw [Externals.commit_db, Db.applyMigrations_eq_ok hnew] at hrow
      simp [Db.empty] at hrow
    · rintro ⟨file, hf, -⟩
      cases hf
  | some (.sqlite file') =>
    rw [hget] at hopen
    rw [hasIdentity_congr (sameRegistry_openDbFile hopen)]
    constructor
    · intro hid
      use file', rfl
    · rintro ⟨_, hf, hid⟩
      cases hf
      exact hid
  | some (.raw _) | some (.text _) | some (.json _ _) | some (.zip _) =>
    rw [hget] at hopen
    cases hopen

/-- A pull that gets to the vault keeps the identity exactly when the snapshot is over the
limits or carries it. -/
theorem holdsIdentity_finishPull_iff {db : Db} {source : Source} {head : SyncHeadV1}
    {bundleRelpath deviceId : String} {device : TrustedDeviceRow}
    (hdevice : db.trustedDevices[deviceId]? = some device) (h : HoldsIdentity db s.vault) :
  HoldsIdentity db
      ((finishPull source head bundleRelpath nowMs).eval (perform ext host) s).2.vault
    ↔ (validateSnapshotDirLimits ext (source.dir s.target) syncSnapshotLimits = .ok () →
      CarriesIdentity db (source.dir s.target))
  := by
  rcases hv : validateSnapshotDirLimits ext (source.dir s.target) syncSnapshotLimits with e | _
  · rw [eval_finishPull_over_limits hv]
    simp [h]
  · rcases ht : applyTrees (source.dir s.target) TopDir.all s.vault with ⟨outcome, vault⟩
    rcases hrun : (finishPull source head bundleRelpath nowMs).eval (perform ext host) s with
      ⟨result, s'⟩
    have hplaced : HoldsIdentity db vault ↔ CarriesIdentity db (source.dir s.target) := by
      have hplaced : HoldsIdentity db (applyTrees (source.dir s.target) TopDir.all s.vault).2
        ↔ CarriesIdentity db (source.dir s.target) := holdsIdentity_applyTrees_iff h
      rw [ht] at hplaced
      exact hplaced
    simp only [forall_const]
    rw [← hplaced]
    rcases eval_finishPull hv ht hrun with ⟨-, hs', -⟩ | ⟨key, file, -, hopen, hs'⟩
    · rw [hs']
    · rw [hs', holdsIdentity_recorded_iff, hasIdentity_openDbFile_iff hdevice hopen]

/-! ### One call -/

/-- What a pull from a remote target takes from it once its checks have let it pass. -/
def S3PullTakes (ext : Externals) (host : Host) (target : String) (nowMs : Int64)
    (mode : Option SyncAutoMergeMode) (strictAuth : Bool) (s : Site) (head : SyncHeadV1)
    (dir : Dir Content) : Prop :=
  ∃ plan, ((prepareS3Pull ext host target nowMs mode strictAuth).eval (perform ext host) s).1
      = .ok plan
    ∧ LockFree target nowMs s
    ∧ ((fetchS3Snapshot ext host target nowMs mode strictAuth plan).eval (perform ext host)
        (locked (lockOf plan.vault.vaultId plan.localTrust nowMs) s)).1 = .ok (head, dir)

/-- What can happen at a site: a call of the vault that synchronises, or others changing the
targets. -/
inductive SyncEvent
  | push (target : String) (nowMs : Int64)
  | s3Push (target : String) (nowMs : Int64)
  | pull (target : String) (nowMs : Int64) (mode : Option SyncAutoMergeMode) (strictAuth : Bool)
  | s3Pull (target : String) (nowMs : Int64) (mode : Option SyncAutoMergeMode)
      (strictAuth : Bool)
  | others (target : FileTarget) (bucket : Table Content)

/-- The site after an event. A call may have succeeded or failed. -/
def SyncEvent.after (ext : Externals) (host : Host) (s : Site) : SyncEvent → Site
  | push target nowMs => ((syncPush ext target nowMs).eval (perform ext host) s).2
  | s3Push target nowMs => ((syncPushS3Target ext host target nowMs).eval (perform ext host) s).2
  | pull target nowMs mode strictAuth =>
    ((syncPullWithMode ext target nowMs mode strictAuth).eval (perform ext host) s).2
  | s3Pull target nowMs mode strictAuth =>
    ((syncPullS3Target ext host target nowMs mode strictAuth).eval (perform ext host) s).2
  | others target bucket => { s with target, bucket }

/-- The snapshot that an event puts in place, if it does, carries an identity. -/
def SyncEvent.Carries (ext : Externals) (host : Host) (db : Db) (s : Site) : SyncEvent → Prop
  | push _ _ | s3Push _ _ | others _ _ => True
  | pull target nowMs mode strictAuth => ∀ file vault head bundle hash,
    PullAccepts ext host target nowMs mode strictAuth s file vault head bundle hash →
    validateSnapshotDirLimits ext (s.snapshot head.snapshotId) syncSnapshotLimits = .ok () →
    CarriesIdentity db (s.snapshot head.snapshotId)
  | s3Pull target nowMs mode strictAuth => ∀ head dir,
    S3PullTakes ext host target nowMs mode strictAuth s head dir →
    validateSnapshotDirLimits ext dir syncSnapshotLimits = .ok () → CarriesIdentity db dir

theorem holdsIdentity_push {db : Db} (h : HoldsIdentity db s.vault) :
  HoldsIdentity db ((syncPush ext target nowMs).eval (perform ext host) s).2.vault
  := by
  by_cases ha : ∃ file vault head bundle hash,
      PushReads ext host s file vault head bundle hash ∧ ¬ Diverged head file.db hash
  · obtain ⟨file, vault, head, bundle, hash, hr, hc⟩ := ha
    obtain ⟨file', hf', hid⟩ := h
    obtain rfl : file = file' := by simpa [hr.opened] using hf'
    rw [eval_syncPush hr hc]
    apply holdsIdentity_recorded_iff.mpr hid
  · obtain ⟨e, s', hrun, hvault, -⟩ := eval_syncPush_refused target nowMs ha
    rw [hrun, hvault]
    exact h

theorem holdsIdentity_s3Push {db : Db} (h : HoldsIdentity db s.vault) :
  HoldsIdentity db
    ((syncPushS3Target ext host target nowMs).eval (perform ext host) s).2.vault
  := by
  by_cases ha : ∃ file plan head newHead,
      S3PushAccepts ext host target nowMs s file plan head newHead
  · obtain ⟨file, plan, head, newHead, ha⟩ := ha
    obtain ⟨file', hf', hid⟩ := h
    obtain rfl : file = file' := by simpa [ha.opened] using hf'
    rw [eval_syncPushS3Target ha]
    apply holdsIdentity_recorded_iff.mpr hid
  · obtain ⟨e, s', hrun, hvault, -⟩ := eval_syncPushS3Target_refused ha
    rw [hrun, hvault]
    exact h

section Pulls

variable {db : Db} {deviceId : String} {device : TrustedDeviceRow}

theorem holdsIdentity_pull_iff {mode : Option SyncAutoMergeMode} {strictAuth : Bool}
    (hdevice : db.trustedDevices[deviceId]? = some device) (h : HoldsIdentity db s.vault) :
  HoldsIdentity db ((SyncEvent.pull target nowMs mode strictAuth).after ext host s).vault
    ↔ (SyncEvent.pull target nowMs mode strictAuth).Carries ext host db s
  := by
  rw [SyncEvent.after, SyncEvent.Carries]
  by_cases ha : ∃ file vault head bundle hash,
      PullAccepts ext host target nowMs mode strictAuth s file vault head bundle hash
  · obtain ⟨file, vault, head, bundle, hash, ha⟩ := ha
    rw [eval_syncPullWithMode_accepts ha, holdsIdentity_finishPull_iff hdevice h]
    constructor
    · intro hc _ _ head' _ _ ha'
      obtain rfl : head = head' := by simpa [ha.found] using ha'.found
      exact hc
    · intro hc
      exact hc file vault head bundle hash ha
  · obtain ⟨e, s', hrun, hvault⟩ := eval_syncPullWithMode_refused ha
    rw [hrun, hvault]
    apply iff_of_true h
    intro file vault head bundle hash ha'
    exact absurd ⟨file, vault, head, bundle, hash, ha'⟩ ha

theorem holdsIdentity_s3Pull_iff {mode : Option SyncAutoMergeMode} {strictAuth : Bool}
    (hdevice : db.trustedDevices[deviceId]? = some device) (h : HoldsIdentity db s.vault) :
  HoldsIdentity db ((SyncEvent.s3Pull target nowMs mode strictAuth).after ext host s).vault
    ↔ (SyncEvent.s3Pull target nowMs mode strictAuth).Carries ext host db s
  := by
  have frame {α : Type} (p : SyncM α) (hp : p.AllOps Op.KeepsVault) (t : Site)
      (ht : HoldsIdentity db t.vault) :
      HoldsIdentity db (p.eval (perform ext host) t).2.vault := by
    rw [eval_keepsVault ext host hp t]
    exact ht
  rw [SyncEvent.after, SyncEvent.Carries, syncPullS3Target]
  have hprepare := frame (prepareS3Pull ext host target nowMs mode strictAuth)
    ((prepareS3Pull_prepares mode strictAuth).mono fun _ => Op.Prepares.keepsVault) s h
  rcases hp : (prepareS3Pull ext host target nowMs mode strictAuth).eval (perform ext host) s with
    ⟨e | plan, t⟩
  · rw [Prog.eval_bind_error hp]
    rw [hp] at hprepare
    apply iff_of_true hprepare
    rintro head dir ⟨plan, hplan, -⟩
    rw [hp] at hplan
    cases hplan
  obtain rfl := prepareS3Pull_ok hp
  rw [Prog.eval_bind_ok hp]
  by_cases hfree : LockFree target nowMs t
  · rw [eval_withS3Lock (applyS3Pull_keepsLock mode strictAuth plan) hfree]
    let lock := lockOf plan.vault.vaultId plan.localTrust nowMs
    have hfetch := frame (fetchS3Snapshot ext host target nowMs mode strictAuth plan)
      ((fetchS3Snapshot_prepares mode strictAuth plan).mono fun _ => Op.Prepares.keepsVault)
      (locked lock t) h
    have htakes (head : SyncHeadV1) (dir : Dir Content) :
        S3PullTakes ext host target nowMs mode strictAuth t head dir
          ↔ ((fetchS3Snapshot ext host target nowMs mode strictAuth plan).eval
            (perform ext host) (locked lock t)).1 = .ok (head, dir) := by
      constructor
      · rintro ⟨plan', hplan, -, hb⟩
        rw [hp] at hplan
        cases hplan
        exact hb
      · intro hb
        exact ⟨plan, by rw [hp], hfree, hb⟩
    simp only [htakes]
    rcases hb : (fetchS3Snapshot ext host target nowMs mode strictAuth plan).eval
        (perform ext host) (locked lock t) with ⟨e | ⟨head, dir⟩, t'⟩
    · rw [applyS3Pull, Prog.eval_bind_error hb]
      rw [hb] at hfetch
      apply iff_of_true hfetch
      rintro head dir hok
      cases hok
    · obtain ⟨rfl, -⟩ := eval_fetchS3Snapshot_eq_ok hb
      rw [applyS3Pull, Prog.eval_bind_ok hb]
      have hlocked : HoldsIdentity db (locked lock t).vault := h
      apply (holdsIdentity_finishPull_iff hdevice hlocked).trans
      constructor
      · rintro hc _ _ ⟨⟩
        exact hc
      · intro hc
        exact hc head dir rfl
  · obtain ⟨e, he⟩ := eval_withS3Lock_not_free ext host
      (applyS3Pull ext host target nowMs mode strictAuth plan) plan.vault.vaultId
      plan.localTrust hfree
    rw [he]
    apply iff_of_true
    · apply frame (acquireS3Lock target plan.vault.vaultId plan.localTrust nowMs)
        ((acquireS3Lock_locks _ _).mono fun _ => locks_keepsVault) t h
    · rintro head dir ⟨_, -, hfree', -⟩
      exact absurd hfree' hfree

/-- An event keeps the identity exactly when it puts in place what carries it. -/
theorem holdsIdentity_after_iff {event : SyncEvent}
    (hdevice : db.trustedDevices[deviceId]? = some device) (h : HoldsIdentity db s.vault) :
  HoldsIdentity db (event.after ext host s).vault ↔ event.Carries ext host db s
  := by
  cases event with
  | push target nowMs => exact iff_of_true (holdsIdentity_push h) trivial
  | s3Push target nowMs => exact iff_of_true (holdsIdentity_s3Push h) trivial
  | pull target nowMs mode strictAuth => apply holdsIdentity_pull_iff hdevice h
  | s3Pull target nowMs mode strictAuth => apply holdsIdentity_s3Pull_iff hdevice h
  | others target bucket => exact iff_of_true h trivial

end Pulls

/-! ### Histories -/

/-- After every event of a history the vault has the identity of a database. -/
def KeepsIdentityAlong (ext : Externals) (host : Host) (db : Db) : Site → List SyncEvent → Prop
  | _, [] => True
  | s, event :: rest =>
    (∃ file, Vault.dbFile (event.after ext host s).vault = some file ∧ KeepsIdentity ext db file.db)
      ∧ KeepsIdentityAlong ext host db (event.after ext host s) rest

/-- Every snapshot that is put in place in a history carries the identity of a database. -/
def CarriesIdentityAlong (ext : Externals) (host : Host) (db : Db) : Site → List SyncEvent → Prop
  | _, [] => True
  | s, event :: rest =>
    event.Carries ext host db s
      ∧ CarriesIdentityAlong ext host db (event.after ext host s) rest

/-- A vault with a device keeps its identity over a history exactly when every snapshot it puts
in place carries it. -/
theorem keeps_identity_iff (ext : Externals) (host : Host) (s : Site) (file : SqliteFile)
    (deviceId : String) (device : TrustedDeviceRow) (hf : Vault.dbFile s.vault = some file)
    (hdevice : file.db.trustedDevices[deviceId]? = some device) (events : List SyncEvent) :
  KeepsIdentityAlong ext host file.db s events ↔ CarriesIdentityAlong ext host file.db s events
  := by
  have hkeeps (vault : Dir Content) : (∃ file', Vault.dbFile vault = some file'
      ∧ KeepsIdentity ext file.db file'.db) ↔ HoldsIdentity file.db vault := by
    constructor
    · rintro ⟨file', hf', hk⟩
      exact ⟨file', hf', hk.toHasIdentity⟩
    · rintro ⟨file', hf', hid⟩
      exact ⟨file', hf', hid.keepsIdentity⟩
  have hholds : HoldsIdentity file.db s.vault := ⟨file, hf, HasIdentity.refl _⟩
  clear hf
  induction events generalizing s with
  | nil => exact Iff.rfl
  | cons event rest ih =>
    simp only [KeepsIdentityAlong, CarriesIdentityAlong, hkeeps]
    constructor
    · rintro ⟨hafter, hrest⟩
      use (holdsIdentity_after_iff hdevice hholds).mp hafter
      exact (ih _ hafter).mp hrest
    · rintro ⟨hcarries, hrest⟩
      have hafter := (holdsIdentity_after_iff hdevice hholds).mpr hcarries
      use hafter
      exact (ih _ hafter).mpr hrest

/-- The database of another vault, with a device of its own. -/
def Sample.otherDb : Db :=
  (Sample.enrolmentOf "other-device" "other-cert").foldl (Trust.Act.after Sample.ext) Sample.db

/-- The enrolled device at a target to which the other vault has pushed. -/
def Sample.sharedSite : Site where
  vault := Sample.vault Sample.enrolledDb []
  target := ((syncPush Sample.ext "target" 1000).eval (perform Sample.ext Sample.host)
    ⟨Sample.vault Sample.otherDb [], Sample.noTarget, ∅⟩).2.target
  bucket := ∅

/-- The database file of the enrolled device. -/
def Sample.enrolledFile : SqliteFile := ⟨Sample.enrolledDb, none, 0⟩

theorem Sample.dbFile_sharedSite :
  Vault.dbFile Sample.sharedSite.vault = some Sample.enrolledFile
  := Sample.dbFile_vault Sample.enrolledDb

theorem Sample.enrolledFile_device :
  ∃ device, Sample.enrolledFile.db.trustedDevices[("device" : String)]? = some device
  := by
  apply Option.isSome_iff_exists.mp
  decide +kernel

/-- The first pull of the enrolled device succeeds, and its device is gone. -/
theorem pull_replaces_identity :
  ((syncPullWithMode Sample.ext "target" 2000 none false).eval
      (perform Sample.ext Sample.host) Sample.sharedSite).1.isOk = true
    ∧ ¬ KeepsIdentityAlong Sample.ext Sample.host Sample.enrolledFile.db Sample.sharedSite
      [.pull "target" 2000 none false]
  := by
  obtain ⟨hpulled, hgone⟩ : ((syncPullWithMode Sample.ext "target" 2000 none false).eval
        (perform Sample.ext Sample.host) Sample.sharedSite).1.isOk = true
      ∧ (Vault.dbFile ((syncPullWithMode Sample.ext "target" 2000 none false).eval
          (perform Sample.ext Sample.host) Sample.sharedSite).2.vault).any (fun file =>
        file.db.trustedDevices[("device" : String)]?.isSome) = false := by
    decide +kernel
  use hpulled
  rintro ⟨⟨file, hf, hkeeps⟩, -⟩
  obtain ⟨device, hdevice⟩ := Sample.enrolledFile_device
  rw [SyncEvent.after] at hf
  rw [hf, Option.any_some, hkeeps.devices _ _ hdevice] at hgone
  cases hgone

theorem keeps_identity_pushing :
  KeepsIdentityAlong Sample.ext Sample.host Sample.enrolledFile.db Sample.sharedSite
    [.others Sample.noTarget ∅, .push "target" 2000, .s3Push "target" 3000]
  := by
  obtain ⟨device, hdevice⟩ := Sample.enrolledFile_device
  apply (keeps_identity_iff Sample.ext Sample.host Sample.sharedSite Sample.enrolledFile
    "device" device Sample.dbFile_sharedSite hdevice _).mpr
  simp only [CarriesIdentityAlong, SyncEvent.Carries, and_true]

end Sync

end KnowledgeCore
