import KnowledgeCore.Bundle
import KnowledgeCore.Lifecycle.Reextraction
import KnowledgeCore.Objects.AtRest
import KnowledgeCore.Objects.AllOrNothing
import KnowledgeCore.Operations.Database
import KnowledgeCore.Operations.Escrow

/-!
# The vaults that can be reached

A vault is made, files are ingested into it, texts are extracted, encryption is enabled and
migrated to, for the objects and for the database, and recovery escrow is used, in any order.
What is kept by all of this: the configuration is the one the vault was made with but for what
has been enabled, and the tables list objects and descriptors of the right form.
-/

namespace KnowledgeCore

namespace Operations

open DbCipher (DbFiles DbMigrationOutcome DbPath Effect FileAns FileOp IsCopy SameTables Slot Stage beforeUpgrade
  dbUnlock deriveDbEncryptionState emptyFile eq_sqlite_of_readWith
  migrateDbToSqlcipher readWith readWith_sqlite)
open Ingest (Invocation IngestBytesReq openVault openDbOf opened closed objectsDir)
open Migration (Trouble vaultEncryptionMigrateService)
open Prog (AllOps)
open Vault (dbPath vaultJsonPath)

/-! ### Steps -/

/-- Store the canonical text of a document in the vault, with an object store that has been made
for it. -/
def persistText (ext : Externals) (host : Host) (store : ObjectStore)
    (artifact : CanonicalTextArtifact) (createdEventId : Int64) (stop : Option Nat)
    (fault : Option String) (owner : OwnerDb) (m : Machine) : AppResult Unit × Machine
  :=
  match openVault ext host m.vault with
  | .error e => (.error e, m)
  | .ok (config, file) =>
    let (result, files, db) := persistCanonicalText ext store artifact createdEventId stop fault
      m.files { owner with toDb := file.db }
    (result, closed ext m config file ⟨files, db.toDb⟩)

/-- A call of recovery escrow. -/
inductive EscrowCall
  | enable (providerId : String)
  | providerAdd (providerId configRef : String)
  | rotateAll (passphrase : String) (providers : List String)
  | rotate (passphrase : String)
  | restore (bundlePath : String) (manifest : AppResult RecoveryManifestV2)

/-- The machine after a call of recovery escrow. -/
def EscrowCall.after (ext : Externals) (host : Host) (moment : EscrowMoment) (nowMs : Int64)
    (m : Machine) : EscrowCall → Machine
  | .enable providerId => (vaultRecoveryEscrowEnableService ext host providerId nowMs m).2
  | .providerAdd providerId configRef =>
    (vaultRecoveryEscrowProviderAddService ext host providerId configRef nowMs m).2
  | .rotateAll passphrase providers =>
    (vaultRecoveryEscrowRotateAllService ext host moment passphrase providers nowMs m).2
  | .rotate passphrase => (vaultRecoveryEscrowRotateService ext host moment passphrase nowMs m).2
  | .restore bundlePath manifest =>
    (vaultRecoveryEscrowRestoreService ext host moment bundlePath manifest m).2

/-- What may happen to a vault. Every step has a process of its own, which may fail. A text that
is stored is in memory, where no byte string is longer than `isize::MAX`. -/
inductive Step (ext : Externals) (vaultPath : String) : Machine → Machine → Prop
  | init {vaultId m} (vaultSlug : String) (nowMs : Int64)
    (hid : VaultJsonV3.uuidV4Pattern.fits vaultId.toList = true) :
    Step ext vaultPath m { m with vault := vaultInit vaultId vaultSlug nowMs m.vault }
  | ingest {m} (inv : Invocation) : Step ext vaultPath m (inv.after ext vaultPath m)
  | extract {host store artifact m} (createdEventId stop fault owner)
    (hhost : host.vaultPath = vaultPath) (hstore : store.objectsDir = objectsDir vaultPath)
    (hlength : artifact.canonicalBytes.length < 2 ^ 63) :
    Step ext vaultPath m
      (persistText ext host store artifact createdEventId stop fault owner m).2
  | enableEncryption {host m} (passphrase trouble) (hhost : host.vaultPath = vaultPath) :
    Step ext vaultPath m (vaultEncryptionEnableService ext host passphrase trouble m).2
  | migrateEncryption {host m} (passphrase trouble) (hhost : host.vaultPath = vaultPath) :
    Step ext vaultPath m (vaultEncryptionMigrateService ext host passphrase trouble m).2
  | database {host passphrase m dir} (hhost : host.vaultPath = vaultPath)
    (hcall : DbCall ext host passphrase m.vault dir) :
    Step ext vaultPath m { m with vault := dir }
  | escrow {host m} (moment nowMs) (call : EscrowCall) (hhost : host.vaultPath = vaultPath) :
    Step ext vaultPath m (call.after ext host moment nowMs m)

/-- The machines that can be reached from one without a vault. -/
inductive Reached (ext : Externals) (vaultPath : String) : Machine → Prop
  | start (files : Files) : Reached ext vaultPath ⟨Dir.empty, files⟩
  | step {m m'} (h : Reached ext vaultPath m) (hstep : Step ext vaultPath m m') :
    Reached ext vaultPath m'

/-! ### Tables -/

/-- The tables that an export reads are of the right form: every object is that of a byte string,
with its length, and the descriptors are complete. -/
structure Kept (ext : Externals) (db : Db) : Prop where
  objects : ∀ (hash : String) (row : ObjectRow), db.objects[hash]? = some row →
    ∃ bytes : List UInt8, hash = blake3HexPrefixed ext (.raw bytes)
      ∧ row.bytes.toInt = bytes.length
  escrow : EscrowKept db

section Kept

variable {ext : Externals} {db db' : Db}

theorem Kept.congr (h : Kept ext db) (hobjects : db'.objects = db.objects)
    (hescrow : db'.recoveryEscrowConfigs = db.recoveryEscrowConfigs) :
  Kept ext db'
  where
  objects := by
    rw [hobjects]
    exact h.objects
  escrow := by
    rw [EscrowKept, hescrow]
    exact h.escrow

theorem kept_empty (ext : Externals) :
  Kept ext Db.empty
  where
  objects hash row hrow := by simp [Db.empty] at hrow
  escrow id row descriptor hrow := by simp [Db.empty] at hrow

theorem Kept.sameTables (h : Kept ext db) (htables : SameTables db db') :
  Kept ext db'
  := by
  rw [← htables]
  exact h.congr rfl rfl

theorem toInt_ofNat_length {bytes : List UInt8} (h : bytes.length < 2 ^ 63) :
  (Int64.ofNat bytes.length).toInt = bytes.length
  := Int64.toInt_ofNat_of_lt h

/-- Storing a byte string keeps the tables of the right form. -/
theorem Kept.putBytes (store : ObjectStore) {bytes : List UInt8} (stop : Option Nat) {disk : Disk}
    (h : Kept ext disk.db) (hlength : bytes.length < 2 ^ 63) :
  Kept ext (store.putBytes ext bytes stop disk).2.db
  := by
  rw [ObjectStore.putBytes]
  split
  · exact h
  · next path _ =>
    have hdb := store.db_ensureFile ext (blake3HexPrefixed ext (.raw bytes)) path bytes stop disk
    split
    · next heq =>
      rw [heq] at hdb
      exact hdb ▸ h
    · next after heq =>
      rw [heq] at hdb
      have hdb : after.db = disk.db := hdb
      constructor
      · intro hash row hrow
        change (after.db.objects.insertIfNew _ _)[hash]? = some row at hrow
        rw [hdb, Std.ExtTreeMap.getElem?_insertIfNew] at hrow
        split at hrow
        · next hnew =>
          cases Std.LawfulEqCmp.eq_of_compare hnew.1
          cases hrow
          exact ⟨bytes, rfl, toInt_ofNat_length hlength⟩
        · exact h.objects hash row hrow
      · change EscrowKept { after.db with objects := _ }
        rw [hdb]
        exact h.escrow

end Kept

/-! ### What is kept -/

/-- What is kept in the directory of a vault. Where the database is, or may be put back, the
tables are of the right form. -/
structure WellKept (ext : Externals) (dir : Dir Content) : Prop where
  config : ∀ bytes, dir.get vaultJsonPath = some bytes →
    ∃ vault : VaultJsonV3, vault.Genuine ∧ bytes = .json vault.toJson 1
  db : ∀ file, dir.get dbPath = some (.sqlite file) → Kept ext file.db
  bak : ∀ file, dir.get dbBakPath = some (.sqlite file) → Kept ext file.db
  only : ∀ p bytes, dir.get p = some bytes → p ∈ [vaultJsonPath, dbPath, dbTmpPath, dbBakPath]

section WellKept

variable {ext : Externals} {host : Host} {dir : Dir Content} {config : VaultJsonV3}
  {file : SqliteFile} {m : Machine}

theorem wellKept_empty : WellKept ext Dir.empty
  where
  config bytes h := by simp at h
  db file h := by simp at h
  bak file h := by simp at h
  only p bytes h := by simp at h

theorem WellKept.genuine (h : WellKept ext dir) (hopen : Vault.vaultOpen host dir = .ok config) :
  config.Genuine
  := by
  obtain ⟨bytes, hbytes, -⟩ := AppResult.bind_eq_ok.mp hopen
  rw [okOrElse_eq_ok] at hbytes
  obtain ⟨vault, hgenuine, rfl⟩ := h.config bytes hbytes
  rw [eq_of_vaultOpen hgenuine hbytes hopen]
  exact hgenuine

theorem WellKept.save (h : WellKept ext dir) (hgenuine : config.Genuine) :
  WellKept ext (vaultSave config dir)
  where
  config bytes hbytes := by
    rw [vaultSave, Dir.get_write, if_pos rfl] at hbytes
    cases hbytes
    exact ⟨config, hgenuine, rfl⟩
  db file hfile := by
    rw [vaultSave, Dir.get_write, if_neg (by decide)] at hfile
    exact h.db file hfile
  bak file hfile := by
    rw [vaultSave, Dir.get_write, if_neg (by decide)] at hfile
    exact h.bak file hfile
  only p bytes hbytes := by
    rw [vaultSave, Dir.get_write] at hbytes
    split at hbytes
    · next hp => simp [← hp]
    · exact h.only p bytes hbytes

theorem WellKept.init (h : WellKept ext dir) {vaultId : String} (vaultSlug : String)
    (nowMs : Int64) (hid : VaultJsonV3.uuidV4Pattern.fits vaultId.toList = true) :
  WellKept ext (vaultInit vaultId vaultSlug nowMs dir)
  := by
  apply WellKept.save _ (genuine_newVault vaultSlug nowMs hid)
  exact ⟨h.config, h.db, h.bak, h.only⟩

theorem WellKept.writeDb (h : WellKept ext dir) (hkept : Kept ext file.db) :
  WellKept ext (dir.write dbPath (.sqlite file))
  where
  config bytes hbytes := by
    rw [Dir.get_write, if_neg (by decide)] at hbytes
    exact h.config bytes hbytes
  db file' hfile := by
    rw [Dir.get_write, if_pos rfl] at hfile
    cases hfile
    exact hkept
  bak file' hfile := by
    rw [Dir.get_write, if_neg (by decide)] at hfile
    exact h.bak file' hfile
  only p bytes hbytes := by
    rw [Dir.get_write] at hbytes
    split at hbytes
    · next hp => simp [← hp]
    · exact h.only p bytes hbytes

/-- The tables of a database that opens are of the right form. A database that is created has
none of the rows. -/
theorem kept_openDbFile {key : Option String} {content : Option Content}
    (h : ∀ file, content = some (.sqlite file) → Kept ext file.db)
    (hopen : Vault.openDbFile ext key content = .ok file) :
  Kept ext file.db
  := by
  match content with
  | none =>
    simp only [Vault.openDbFile, AppResult.bind_eq_ok] at hopen
    obtain ⟨db, hmigrated, hopen⟩ := hopen
    cases hopen
    rw [Externals.commit_db, Db.applyMigrations_eq_ok hmigrated]
    exact (kept_empty ext).congr rfl rfl
  | some (.sqlite file') =>
    rw [(Vault.openDbFile_tables hopen).1]
    exact (h file' rfl).congr rfl rfl
  | some (.raw _) | some (.text _) | some (.json _ _) | some (.zip _) => cases hopen

theorem relPath_dbPath (hgenuine : config.Genuine) :
  Export.relPath config.db.relativePath = dbPath
  := by
  rw [hgenuine.dbPath, Export.relPath_usualPlace]

theorem WellKept.openDbOf (h : WellKept ext dir) (hgenuine : config.Genuine)
    (hopen : openDbOf ext host dir config = .ok file) :
  Kept ext file.db
  := by
  obtain ⟨key, -, hopen⟩ := AppResult.bind_eq_ok.mp hopen
  rw [relPath_dbPath hgenuine] at hopen
  exact kept_openDbFile h.db hopen

theorem WellKept.openVault (h : WellKept ext dir)
    (hopen : openVault ext host dir = .ok (config, file)) :
  config.Genuine ∧ Kept ext file.db
  := by
  obtain ⟨config', hconfig, hopen⟩ := AppResult.bind_eq_ok.mp hopen
  obtain ⟨file', hfile, hopen⟩ := AppResult.bind_eq_ok.mp hopen
  cases hopen
  have hgenuine := h.genuine hconfig
  exact ⟨hgenuine, h.openDbOf hgenuine hfile⟩

theorem WellKept.opened (h : WellKept ext m.vault) (hgenuine : config.Genuine)
    (hkept : Kept ext file.db) :
  WellKept ext (opened m config file).vault
  := by
  rw [Ingest.opened, relPath_dbPath hgenuine]
  exact h.writeDb hkept

theorem WellKept.closed (h : WellKept ext m.vault) (hgenuine : config.Genuine) {disk : Disk}
    (hkept : Kept ext disk.db) :
  WellKept ext (closed ext m config file disk).vault
  := by
  rw [Ingest.closed, relPath_dbPath hgenuine]
  exact h.writeDb hkept

end WellKept

/-! ### Ingesting -/

section Ingesting

variable {ext : Externals} {host : Host} {moment : Moment} {m : Machine}

theorem Kept.ingestBytes (store : ObjectStore) {req : IngestBytesReq} (stop : Option Nat)
    {disk : Disk} (h : Kept ext disk.db) :
  Kept ext (Ingest.ingestBytesWithLimits ext store req stop disk).2.db
  := by
  rw [Ingest.ingestBytesWithLimits, Ingest.validateIngestBytesLimits]
  split
  · exact h
  · next hlimit =>
    have hlength : req.bytes.length < 2 ^ 63 := by
      split at hlimit
      · cases hlimit
      · next hle =>
        have : Ingest.INGEST_SINGLE_FILE_MAX_BYTES < 2 ^ 63 := by decide
        omega
    have hput := h.putBytes store stop hlength
    rw [Ingest.ingestBytes]
    split
    · next hfailed =>
      rw [hfailed] at hput
      exact hput
    · next hash after hstored =>
      rw [hstored] at hput
      cases hsource : req.sourcePath with
      | none => exact hput.congr rfl rfl
      | some path =>
        simp only [Ingest.insertDocSource]
        split <;> exact hput.congr rfl rfl

theorem WellKept.ingestOne (host : Host) (moment : Moment) (sourceKind filePath : String)
    (h : WellKept ext m.vault) :
  WellKept ext (Ingest.ingestOne ext host moment sourceKind filePath m).2.vault
  := by
  rw [Ingest.ingestOne]
  split
  · exact h
  · next config file hopen =>
    obtain ⟨hgenuine, hkept⟩ := h.openVault hopen
    split
    · exact h.opened hgenuine hkept
    · have hstart : Kept ext (Disk.mk m.files file.db).db := hkept
      exact h.closed hgenuine (hstart.ingestBytes _ _)

theorem WellKept.ingestEach {sourceKind : String} (files : List String)
    (h : WellKept ext m.vault) :
  WellKept ext (Ingest.ingestEach ext host moment sourceKind files m).2.vault
  := by
  induction files generalizing m with
  | nil => exact h
  | cons file rest ih =>
    have hfirst := h.ingestOne host moment sourceKind file
    rw [Ingest.ingestEach]
    rcases hone : Ingest.ingestOne ext host moment sourceKind file m with ⟨_ | doc, after⟩
    · rw [hone] at hfirst
      exact hfirst
    · rw [hone] at hfirst
      exact ih hfirst

theorem WellKept.moveProcessed {filePath : String} (h : WellKept ext m.vault) :
  WellKept ext (Ingest.moveProcessed ext host moment filePath m).2.vault
  := by
  rw [Ingest.moveProcessed]
  split
  · exact h
  · next config file hopen =>
    obtain ⟨hgenuine, hkept⟩ := h.openVault hopen
    have hopened := h.opened hgenuine hkept
    split
    · exact hopened
    · dsimp only
      split
      · exact hopened
      · exact hopened

theorem Kept.ingestFile (store : ObjectStore) (stop : Option Nat) (sourceKind : String)
    (nowMs : Int64) (message filePath : String) {disk : Disk} (h : Kept ext disk.db) :
  Kept ext (Ingest.ingestFile ext store stop sourceKind nowMs message filePath disk).2.db
  := by
  rw [Ingest.ingestFile]
  split
  · exact h
  · exact h.ingestBytes store stop

theorem Kept.ingestFiles (store : ObjectStore) {sourceKind : String} {nowMs : Int64}
    (files : List String) (ingested : Int64) {disk : Disk} (h : Kept ext disk.db) :
  Kept ext (Ingest.ingestFiles ext store moment sourceKind nowMs files ingested disk).2.db
  := by
  induction files generalizing ingested disk with
  | nil => exact h
  | cons file rest ih =>
    have hfirst := h.ingestFile store (moment.stops file) sourceKind nowMs
      "failed reading scan file" file
    rw [Ingest.ingestFiles]
    split
    · next hone =>
      rw [hone] at hfirst
      exact hfirst
    · next hone =>
      rw [hone] at hfirst
      exact ih _ hfirst

/-- A command that ingests files keeps the vault. -/
theorem WellKept.ingest {vaultPath : String} (inv : Invocation) (h : WellKept ext m.vault) :
  WellKept ext (inv.after ext vaultPath m).vault
  := by
  rw [Invocation.after]
  cases inv.call with
  | ingestScanFolder scanRoot sourceKind =>
    simp only [Ingest.ingestScanFolder]
    split
    · exact h
    · exact h.ingestEach _
  | ingestInboxOnce filePath sourceKind =>
    have hfirst := h.ingestOne (inv.hostAt vaultPath) inv.moment sourceKind filePath
    simp only [Ingest.ingestInboxOnce]
    split
    · next hone =>
      rw [hone] at hfirst
      exact hfirst
    · next hone =>
      rw [hone] at hfirst
      exact hfirst.moveProcessed
  | ingestScanFolderService scanRoot sourceKind nowMs =>
    simp only [Ingest.ingestScanFolderService]
    split
    · exact h
    · next config file hopen =>
      obtain ⟨hgenuine, hkept⟩ := h.openVault hopen
      split
      · exact h.opened hgenuine hkept
      · split
        · exact h.opened hgenuine hkept
        · have hstart : Kept ext (Disk.mk m.files file.db).db := hkept
          exact h.closed hgenuine (hstart.ingestFiles _ _ 0)
  | ingestInboxStartService filePath sourceKind nowMs =>
    simp only [Ingest.ingestInboxStartService]
    split
    · exact h
    · next config file hopen =>
      obtain ⟨hgenuine, hkept⟩ := h.openVault hopen
      split
      · exact h.opened hgenuine hkept
      · have hstart : Kept ext (Disk.mk m.files file.db).db := hkept
        exact h.closed hgenuine (hstart.ingestFile _ _ _ _ _ _)

end Ingesting

/-! ### Extraction and object encryption -/

section Objects

variable {ext : Externals} {host : Host} {m : Machine}

theorem WellKept.extract {store : ObjectStore} {artifact : CanonicalTextArtifact}
    (createdEventId : Int64) (stop : Option Nat) (fault : Option String) (owner : OwnerDb)
    (h : WellKept ext m.vault) (hlength : artifact.canonicalBytes.length < 2 ^ 63) :
  WellKept ext (persistText ext host store artifact createdEventId stop fault owner m).2.vault
  := by
  rw [persistText]
  split
  · exact h
  · next config file hopen =>
    obtain ⟨hgenuine, hkept⟩ := h.openVault hopen
    apply h.closed hgenuine
    have hstart : Kept ext (Disk.mk m.files file.db).db := hkept
    have hput := hstart.putBytes store stop hlength
    rw [persistCanonicalText]
    dsimp only
    split
    · exact hkept
    · split
      · next hfailed =>
        rw [hfailed] at hput
        exact hput
      · next hstored =>
        rw [hstored] at hput
        cases fault with
        | some error => exact hput
        | none => exact hput.congr rfl rfl

theorem WellKept.enableEncryption {passphrase : String} {trouble : Trouble}
    (h : WellKept ext m.vault) :
  WellKept ext (vaultEncryptionEnableService ext host passphrase trouble m).2.vault
  := by
  rw [vaultEncryptionEnableService]
  split
  · exact h
  · next config hconfig =>
    have hgenuine := genuine_enableEncryption (h.genuine hconfig)
    have hsaved := h.save hgenuine
    dsimp only
    split
    · exact h
    · split
      · exact hsaved
      · next file hfile => exact hsaved.opened hgenuine (hsaved.openDbOf hgenuine hfile)

theorem WellKept.migrateEncryption {passphrase : String} {trouble : Trouble}
    (h : WellKept ext m.vault) :
  WellKept ext (vaultEncryptionMigrateService ext host passphrase trouble m).2.vault
  := by
  rw [vaultEncryptionMigrateService]
  split
  · exact h
  · next config enc file hopen =>
    have hopens := Migration.openForMigration_eq_ok.mp hopen
    have hgenuine := h.genuine hopens.configuration
    have hkept := h.openDbOf hgenuine hopens.database
    have hopened := h.opened hgenuine hkept
    split
    · exact hopened
    · dsimp only
      split
      · exact hopened
      · split
        · exact hopened
        · exact h.closed hgenuine hkept

end Objects

/-! ### Database encryption -/

section Database

variable {ext : Externals} {host : Host} {passphrase : String} {dir dir' : Dir Content}
  {s t : DbFiles}

/-- What is kept in the files of a migration. -/
def FilesKept (ext : Externals) (s : DbFiles) : Prop :=
  (∀ file, s.db = some (.sqlite file) → Kept ext file.db)
    ∧ ∀ file, s.bak = some (.sqlite file) → Kept ext file.db

theorem under_self (p : RelPath) : Dir.under p p = true
  := List.isPrefixOf_iff_prefix.mpr List.prefix_rfl

theorem get_put_self (d : Dir Content) (p : RelPath) (c : Option Content) :
  (put d p c).get p = c
  := by
  cases c with
  | none => rw [put, Dir.get_removeAll, if_pos (under_self p)]
  | some bytes => rw [put, Dir.get_write, if_pos rfl]

theorem get_put_of_not_under {d : Dir Content} {p q : RelPath} (c : Option Content)
    (h : Dir.under p q = false) :
  (put d p c).get q = d.get q
  := by
  cases c with
  | none => simp [put, h]
  | some bytes =>
    rw [put, Dir.get_write, if_neg]
    rintro rfl
    rw [under_self] at h
    cases h

theorem get_of_put {d : Dir Content} {p q : RelPath} {c : Option Content} {bytes : Content}
    (h : (put d p c).get q = some bytes) :
  p = q ∨ d.get q = some bytes
  := by
  cases c with
  | none =>
    rw [put, Dir.get_removeAll] at h
    split at h
    · cases h
    · exact Or.inr h
  | some content =>
    rw [put, Dir.get_write] at h
    split at h
    · next hp => exact Or.inl hp
    · exact Or.inr h

theorem eq_of_beforeUpgrade {c : Content} {file : SqliteFile}
    (h : beforeUpgrade c = some (.sqlite file)) :
  c = .sqlite file
  := by
  unfold beforeUpgrade at h
  split at h <;> cases h
  rfl

theorem WellKept.putDbFiles (h : WellKept ext dir) (hkept : FilesKept ext s) :
  WellKept ext (putDbFiles s dir)
  where
  config bytes hbytes := by
    rw [Operations.putDbFiles, get_put_of_not_under _ (by decide),
      get_put_of_not_under _ (by decide), get_put_of_not_under _ (by decide)] at hbytes
    exact h.config bytes hbytes
  db file hfile := by
    rw [Operations.putDbFiles, get_put_of_not_under _ (by decide),
      get_put_of_not_under _ (by decide), get_put_self] at hfile
    obtain ⟨c, hc, hupgrade⟩ := Option.bind_eq_some_iff.mp hfile
    exact hkept.1 file (eq_of_beforeUpgrade hupgrade ▸ hc)
  bak file hfile := by
    rw [Operations.putDbFiles, get_put_self] at hfile
    exact hkept.2 file hfile
  only p bytes hbytes := by
    obtain rfl | hbytes := get_of_put hbytes
    · decide
    obtain rfl | hbytes := get_of_put hbytes
    · decide
    obtain rfl | hbytes := get_of_put hbytes
    · decide
    exact h.only p bytes hbytes

theorem filesKept_dbFilesOf (h : WellKept ext dir) :
  FilesKept ext (dbFilesOf dir)
  := ⟨h.db, h.bak⟩

theorem kept_readWith {key : Option String} {c : Content} {db : Db}
    (h : ∀ file, c = .sqlite file → Kept ext file.db) (hread : readWith key c = some db) :
  Kept ext db
  := by
  by_cases hempty : c = emptyFile
  · subst hempty
    cases hread
    exact kept_empty ext
  · obtain ⟨file, rfl, hkey⟩ := eq_sqlite_of_readWith hread hempty
    rw [readWith_sqlite hkey] at hread
    cases hread
    exact h file rfl

/-- A copy of a file has its tables. -/
theorem kept_of_isCopy {c : Content} {file : SqliteFile}
    (h : ∀ file, c = .sqlite file → Kept ext file.db) (hcopy : IsCopy passphrase c file) :
  Kept ext file.db
  := by
  obtain ⟨⟨db, hread, htables⟩, -⟩ := hcopy
  exact (kept_readWith h hread).sameTables htables

theorem FilesKept.of_stage {c : Content} {old : Option Content}
    (hc : ∀ file, c = .sqlite file → Kept ext file.db)
    (hold : ∀ file, old = some (.sqlite file) → Kept ext file.db)
    (h : Stage passphrase c old t) :
  FilesKept ext t
  := by
  have hcontent : ∀ file, some c = some (.sqlite file) → Kept ext file.db := by
    intro file hfile
    exact hc file (Option.some.inj hfile)
  cases h with
  | inPlace tmp hbak =>
    use hcontent
    intro file hfile
    obtain rfl | rfl := hbak
    · exact hold file hfile
    · cases hfile
  | away tmp =>
    refine ⟨?_, hcontent⟩
    intro file hfile
    cases hfile
  | promoted hcopy =>
    refine ⟨?_, hcontent⟩
    intro file hfile
    cases hfile
    exact kept_of_isCopy hc hcopy
  | migrated hcopy =>
    constructor
    · intro file hfile
      cases hfile
      exact kept_of_isCopy hc hcopy
    · intro file hfile
      cases hfile

/-- An operation that makes no copy and moves no file. -/
def StaysInPlace : FileOp → Prop
  | .rename _ _ | .sqlcipherExport _ => False
  | _ => True

theorem FilesKept.setDb (h : FilesKept ext s) {c : Option Content}
    (hc : ∀ file, c = some (.sqlite file) → Kept ext file.db) :
  FilesKept ext (s.set .db c)
  := ⟨hc, h.2⟩

theorem FilesKept.set {slot : Slot} (h : FilesKept ext s) {c : Option Content}
    (hc : ∀ file, c ≠ some (.sqlite file)) :
  FilesKept ext (s.set slot c)
  := by
  cases slot with
  | db => exact ⟨fun file hfile => absurd hfile (hc file), h.2⟩
  | tmp => exact h
  | bak => exact ⟨h.1, fun file hfile => absurd hfile (hc file)⟩

/-- What an operation leaves where it is keeps its form, and an upgrade keeps the tables. -/
theorem FilesKept.step {o : FileOp} {a : FileAns o} (ho : StaysInPlace o) (h : FilesKept ext s)
    (hstep : Effect ext o s a t) :
  FilesKept ext t
  := by
  have hfile {c : Content} (hdb : s.db = some c) (file : SqliteFile) (heq : c = .sqlite file) :
      Kept ext file.db := h.1 file (heq ▸ hdb)
  have hupgrade {c : Content} {key : Option String} {db : Db} {file : SqliteFile}
      (hdb : s.db = some c) (hread : readWith key c = some db) (htables : SameTables db file.db) :
      FilesKept ext (s.set .db (some (.sqlite file))) := by
    apply h.setDb
    intro file' heq
    cases heq
    exact (kept_readWith (hfile hdb) hread).sameTables htables
  cases hstep with
  | created _ => exact h.set fun file heq => by cases heq
  | removed _ => exact h.set fun file heq => by cases heq
  | renamed _ | notRenamed | exported | notExported => exact absurd ho id
  | upgraded hdb hopen =>
    obtain ⟨db, hread, htables, -⟩ := DbCipher.sameTables_of_upgrade hopen
    exact hupgrade hdb hread htables
  | partlyUpgraded hdb hread htables _ => exact hupgrade hdb hread htables
  | _ => exact h

theorem allOps_dbUnlock (path : DbPath) :
  (dbUnlock path passphrase).AllOps StaysInPlace
  := by
  simp only [dbUnlock, DbCipher.verifyDbPassphrase, DbCipher.validateKeyOnConnection]
  repeat' first | apply AllOps.bind | intro _
  all_goals simp [DbCipher.issue, StaysInPlace]

theorem allOps_deriveDbEncryptionState (path : DbPath) (enabled : Bool) :
  (deriveDbEncryptionState path host enabled).AllOps StaysInPlace
  := by
  have hunlock (passphrase : String) :
      (DbCipher.verifyDbPassphrase path .db passphrase).AllOps StaysInPlace :=
    allOps_dbUnlock path
  simp only [deriveDbEncryptionState, DbCipher.hasPlaintextSqliteHeader]
  repeat' first
    | exact (hunlock _).attempt
    | apply AllOps.bind
    | intro _
    | split
  all_goals simp [DbCipher.issue, StaysInPlace]

theorem allOps_openDb (path : DbPath) :
  (DbCipher.openDb path host dir).AllOps StaysInPlace
  := by
  simp only [DbCipher.openDb, DbCipher.createParentDir, DbCipher.applyDbEncryptionKeyIfNeeded,
    DbCipher.validateKeyOnConnection]
  repeat' first | apply AllOps.bind | intro _ | split
  all_goals simp [DbCipher.issue, StaysInPlace]

theorem FilesKept.safe {α : Type} {p : DbCipher.Program α} (h : FilesKept ext s)
    (hp : p.AllOps StaysInPlace) :
  p.Safe (Effect ext) (FilesKept ext) (fun _ => FilesKept ext) s
  := by
  apply hp.safe _ h
  intro o s a t ho hs hstep
  exact hs.step ho hstep

theorem FilesKept.checkNewKey (h : FilesKept ext s) :
  (checkNewKey host passphrase).Safe (Effect ext) (FilesKept ext) (fun _ => FilesKept ext) s
  := by
  apply h.safe
  apply AllOps.bind (allOps_dbUnlock _)
  intro _
  apply allOps_deriveDbEncryptionState

/-- What a migration returns with. -/
theorem FilesKept.of_returned {c : Content} {outcome : DbMigrationOutcome}
    (h : FilesKept ext s) (hc : ∀ file, c = .sqlite file → Kept ext file.db)
    (hreturned : DbCipher.Returned passphrase c s (.ok outcome) t) :
  FilesKept ext t
  := by
  cases outcome with
  | migrated =>
    obtain ⟨file, hcopy, rfl⟩ := hreturned
    have hstage : Stage passphrase c none { db := some (.sqlite file) } := Stage.migrated hcopy
    exact FilesKept.of_stage hc (fun file hfile => by cases hfile) hstage
  | alreadyEncrypted =>
    obtain ⟨rfl, -⟩ := hreturned
    exact h

/-- The copy of a database has its tables, and stays beside it until it is in its place. -/
theorem FilesKept.migrateDbToSqlcipher (path : DbPath) (h : FilesKept ext s) :
  (migrateDbToSqlcipher path passphrase).Safe (Effect ext) (FilesKept ext)
    (fun r t => ∀ outcome, r = .ok outcome → FilesKept ext t) s
  := by
  cases hdb : s.db with
  | some c =>
    have hc (file : SqliteFile) (heq : c = .sqlite file) : Kept ext file.db := h.1 file (heq ▸ hdb)
    apply Prog.Safe.mono _ _ (DbCipher.safe_migrateDbToSqlcipher hdb)
    · intro t ht
      exact FilesKept.of_stage hc h.2 ht
    · rintro r t hr outcome rfl
      exact h.of_returned hc hr
  | none =>
    have hc (file : SqliteFile) (heq : emptyFile = .sqlite file) : Kept ext file.db := by
      cases heq
    apply Prog.Safe.mono _ _ (DbCipher.safe_migrateDbToSqlcipher_of_none hdb)
    · rintro t (rfl | ht)
      · exact h
      · exact FilesKept.of_stage hc h.2 ht
    · rintro r t hr outcome rfl
      have hcreated : FilesKept ext (s.set .db (some emptyFile)) :=
        h.set fun file heq => by cases heq
      exact hcreated.of_returned hc hr

theorem FilesKept.migrateDb (h : FilesKept ext s) :
  (migrateDb host passphrase dir).Safe (Effect ext) (FilesKept ext) (fun _ _ => True) s
  := by
  rw [Operations.migrateDb, Prog.safe_bind]
  apply Prog.Safe.mono (fun _ ht => ht) _ (h.migrateDbToSqlcipher _)
  intro r t ht
  cases r with
  | error e => trivial
  | ok outcome =>
    rw [Prog.then_ok]
    apply Prog.Safe.mono (fun _ hu => hu) (fun _ _ _ => trivial) ((ht outcome rfl).safe _)
    apply AllOps.bind (allOps_dbUnlock _)
    intro _
    apply AllOps.bind (allOps_openDb _)
    intro _
    trivial

theorem WellKept.saveDbEncryption {vault : VaultJsonV3} {saved : Dir Content}
    (h : WellKept ext dir)
    (hsave : saveDbEncryption host passphrase dir = .ok (vault, saved)) :
  WellKept ext saved
  := by
  simp only [Operations.saveDbEncryption, AppResult.bind_eq_ok] at hsave
  obtain ⟨-, -, vault', hopen, hsave⟩ := hsave
  split at hsave
  · cases hsave
    exact h
  · cases hsave
    exact h.save (genuine_enableDbEncryption (h.genuine hopen))

/-- A call that encrypts the database keeps the vault, wherever it is cut off. -/
theorem WellKept.database (h : WellKept ext dir)
    (hcall : DbCall ext host passphrase dir dir') :
  WellKept ext dir'
  := by
  have hfiles := filesKept_dbFilesOf h
  cases hcall with
  | enable hsave hrun =>
    have hsaved := h.saveDbEncryption hsave
    exact hsaved.putDbFiles ((filesKept_dbFilesOf hsaved).checkNewKey.always hrun)
  | migrate hopen hrun => exact h.putDbFiles (hfiles.migrateDb.always hrun)
  | migrated hopen hend hdb =>
    have hended := hfiles.migrateDb.always hend
    apply h.putDbFiles
    refine ⟨?_, hended.2⟩
    intro file' heq
    cases heq
    rw [Externals.commit_db]
    exact hended.1 _ hdb

end Database

/-! ### Recovery escrow -/

section Escrow

variable {ext : Externals} {host : Host} {moment : EscrowMoment} {m : Machine}

theorem Kept.upsert {db : Db} {providerId : String} {value : Json} {nowMs : Int64}
    (h : Kept ext db) (hmissing : value.get "provider" = none) :
  Kept ext (upsertRecoveryEscrowConfig db providerId value nowMs)
  where
  objects := h.objects
  escrow := h.escrow.upsert_missing hmissing

/-- A call of recovery escrow keeps the vault. -/
theorem WellKept.escrow (nowMs : Int64) (call : EscrowCall) (h : WellKept ext m.vault) :
  WellKept ext (call.after ext host moment nowMs m).vault
  := by
  cases call with
  | enable providerId =>
    rw [EscrowCall.after, vaultRecoveryEscrowEnableService]
    split
    · exact h
    · next config file hopen =>
      obtain ⟨hgenuine, hkept⟩ := h.openVault hopen
      split
      · exact h.opened hgenuine hkept
      · exact h.closed hgenuine (hkept.upsert rfl)
  | providerAdd providerId configRef =>
    rw [EscrowCall.after, vaultRecoveryEscrowProviderAddService]
    split
    · exact h
    · split
      · exact h
      · next config file hopen =>
        obtain ⟨hgenuine, hkept⟩ := h.openVault hopen
        split
        · exact h.opened hgenuine hkept
        · exact h.closed hgenuine (hkept.upsert rfl)
  | rotateAll passphrase providers =>
    rw [EscrowCall.after, vaultRecoveryEscrowRotateAllService]
    split
    · exact h
    · split
      · exact h
      · next config file hopen =>
        obtain ⟨hgenuine, hkept⟩ := h.openVault hopen
        split
        · exact h.opened hgenuine hkept
        · apply h.closed hgenuine
          have hstart : EscrowKept (Disk.mk m.files file.db).db := hkept.escrow
          obtain ⟨hobjects, hescrow⟩ := kept_rotateEach ext host moment config.vaultId passphrase
            providers nowMs hstart
          exact ⟨hobjects ▸ hkept.objects, hescrow⟩
  | rotate passphrase =>
    rw [EscrowCall.after, vaultRecoveryEscrowRotateService]
    split
    · exact h
    · split
      · exact h
      · next config file hopen =>
        obtain ⟨hgenuine, hkept⟩ := h.openVault hopen
        have hopened := h.opened hgenuine hkept
        split
        · exact hopened
        · split
          · exact hopened
          · split
            · exact hopened
            · exact h.closed hgenuine (hkept.upsert rfl)
  | restore bundlePath manifest =>
    rw [EscrowCall.after, vaultRecoveryEscrowRestoreService]
    split
    · exact h
    · next config file hopen =>
      obtain ⟨hgenuine, hkept⟩ := h.openVault hopen
      have hopened := h.opened hgenuine hkept
      dsimp only
      split
      · exact hopened
      · split
        · exact hopened
        · exact h.closed hgenuine hkept

end Escrow

/-! ### Runs -/

section Runs

variable {ext : Externals} {vaultPath : String} {m m' : Machine}

theorem WellKept.step (h : WellKept ext m.vault) (hstep : Step ext vaultPath m m') :
  WellKept ext m'.vault
  := by
  cases hstep with
  | init vaultSlug nowMs hid => exact h.init vaultSlug nowMs hid
  | ingest inv => exact h.ingest inv
  | extract createdEventId stop fault owner hhost hstore hlength =>
    exact h.extract createdEventId stop fault owner hlength
  | enableEncryption => exact h.enableEncryption
  | migrateEncryption => exact h.migrateEncryption
  | database hhost hcall => exact h.database hcall
  | escrow moment nowMs call => exact h.escrow nowMs call

/-- Whatever happens to a vault, it is kept. -/
theorem Reached.wellKept (h : Reached ext vaultPath m) :
  WellKept ext m.vault
  := by
  induction h with
  | start files => exact wellKept_empty
  | step _ hstep ih => exact ih.step hstep

end Runs

/-! ### The directory of a vault -/

/-- Where a file of the machine is in a vault, if it is among the objects. -/
def belowObjects (vaultPath path : String) : Option RelPath :=
  let rel := Export.relPath
    (String.ofList (path.toList.drop (PathBuf.withSeparator vaultPath).length))
  if path = PathBuf.join vaultPath (Export.renderPath rel) ∧ Dir.under Export.objectsDir rel then
    some rel
  else
    none

/-- The directory of a vault as one tree: the configuration, the database and the objects. -/
def vaultDirOf (vaultPath : String) (m : Machine) : Dir Content :=
  (m.files.toList.filterMap fun file =>
      (belowObjects vaultPath file.1).map fun rel => (rel, Content.raw file.2)).foldl
    (fun d file => d.write file.1 file.2) m.vault

section Directory

variable {vaultPath path : String} {m : Machine} {p : RelPath}

theorem belowObjects_eq_some (h : belowObjects vaultPath path = some p) :
  path = PathBuf.join vaultPath (Export.renderPath p) ∧ Dir.under Export.objectsDir p = true
  := by
  rw [belowObjects] at h
  split at h
  · next hpath =>
    rw [← Option.some.inj h]
    exact hpath
  · cases h

theorem get_vaultDirOf_of_not_under (h : Dir.under Export.objectsDir p = false) :
  (vaultDirOf vaultPath m).get p = m.vault.get p
  := by
  apply Dir.get_foldl_write_of_not_mem
  intro hp
  obtain ⟨file, hfile, rfl⟩ := List.mem_map.mp hp
  obtain ⟨entry, -, hentry⟩ := List.mem_filterMap.mp hfile
  obtain ⟨rel, hrel, rfl⟩ := Option.map_eq_some_iff.mp hentry
  rw [(belowObjects_eq_some hrel).2] at h
  cases h

theorem belowObjects_join (h : Dir.under Export.objectsDir p = true)
    (hrel : Export.relPath (Export.renderPath p) = p) :
  belowObjects vaultPath (PathBuf.join vaultPath (Export.renderPath p)) = some p
  := by
  obtain ⟨rest, rfl⟩ := List.isPrefixOf_iff_prefix.mp h
  have hrender : Export.renderPath (Export.objectsDir ++ rest)
      = "store" ++ "/" ++ Export.renderPath ("objects" :: rest) := by
    rw [Export.renderPath, Export.renderPath]
    exact String.intercalate_cons_cons
  have hjoin : PathBuf.join vaultPath (Export.renderPath (Export.objectsDir ++ rest))
      = PathBuf.withSeparator vaultPath ++ Export.renderPath (Export.objectsDir ++ rest) := by
    apply PathBuf.join_of_relative
    simp [hrender, String.toList_append]
  have hdrop : String.ofList ((PathBuf.join vaultPath
      (Export.renderPath (Export.objectsDir ++ rest))).toList.drop
        (PathBuf.withSeparator vaultPath).length) = Export.renderPath (Export.objectsDir ++ rest) := by
    rw [hjoin, String.toList_append, ← String.length_toList, List.drop_left, String.ofList_toList]
  rw [belowObjects, hdrop, hrel]
  exact if_pos ⟨rfl, h⟩

/-- The file of an object is in the directory of the vault. -/
theorem get_vaultDirOf (h : Dir.under Export.objectsDir p = true)
    (hrel : Export.relPath (Export.renderPath p) = p) (hvault : m.vault.get p = none) :
  (vaultDirOf vaultPath m).get p
    = (m.files[PathBuf.join vaultPath (Export.renderPath p)]?).map Content.raw
  := by
  have hlisted (entry : RelPath × Content) (hentry : entry ∈ m.files.toList.filterMap fun file =>
      (belowObjects vaultPath file.1).map fun rel => (rel, Content.raw file.2))
      (hp : entry.1 = p) :
      (m.files[PathBuf.join vaultPath (Export.renderPath p)]?).map Content.raw = some entry.2 := by
    obtain ⟨file, hfile, heq⟩ := List.mem_filterMap.mp hentry
    obtain ⟨rel, hbelow, rfl⟩ := Option.map_eq_some_iff.mp heq
    obtain rfl : rel = p := hp
    rw [← (belowObjects_eq_some hbelow).1,
      Std.ExtTreeMap.mem_toList_iff_getElem?_eq_some.mp hfile, Option.map_some]
  cases hfile : m.files[PathBuf.join vaultPath (Export.renderPath p)]? with
  | none =>
    rw [hfile] at hlisted
    rw [vaultDirOf, Dir.get_foldl_write_of_not_mem, hvault, Option.map_none]
    intro hp
    obtain ⟨entry, hentry, hp⟩ := List.mem_map.mp hp
    cases hlisted entry hentry hp
  | some bytes =>
    rw [hfile] at hlisted
    have hmem : (p, Content.raw bytes) ∈ m.files.toList.filterMap fun file =>
        (belowObjects vaultPath file.1).map fun rel => (rel, Content.raw file.2) := by
      apply List.mem_filterMap.mpr
      use (PathBuf.join vaultPath (Export.renderPath p), bytes),
        Std.ExtTreeMap.mem_toList_iff_getElem?_eq_some.mpr hfile
      rw [belowObjects_join h hrel, Option.map_some]
    apply Dir.get_foldl_write_of_mem (List.mem_map_of_mem hmem)
    intro entry hentry hp
    exact (Option.some.inj (hlisted entry hentry hp)).symm

end Directory

end Operations

end KnowledgeCore
