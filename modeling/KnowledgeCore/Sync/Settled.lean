import KnowledgeCore.Bundle
import KnowledgeCore.Sync.Binding

/-!
# Comparing again

The hash that a synchronisation leaves in the rows of a vault is compared, at the next pull,
with the hash of a manifest made anew. The manifest gives the hash of the database file, which
the rows themselves have changed, and it gives the packaging, which is not that of an archive.
-/

namespace KnowledgeCore

namespace Sync

open Export

variable {ext : Externals} {host : Host} {s : Site} {target : String} {nowMs : Int64}

/-- The hash of the manifest of the last synchronisation, as the rows have it. -/
def lastAppliedManifest (vault : Dir Content) : Option String :=
  (Vault.db vault).bind fun db => db.readState "sync_last_applied_manifest_hash"

/-- Whether a vault counts as unchanged: a manifest made anew has the hash of the rows. -/
def Settled (ext : Externals) (host : Host) (vault : Dir Content) : Prop :=
  ∀ bundle hash, localSnapshot ext host vault false = .ok (bundle, hash) →
    lastAppliedManifest vault = some hash

/-- Two different contents with one hash. -/
def Clash (ext : Externals) (a b : Content) : Prop :=
  a ≠ b ∧ ext.blake3 a = ext.blake3 b

/-- The options a vault is compared with, and those it is pushed to a remote target with. -/
def asFolder : ExportOptions where
  includeVectors := true
  asZip := false

def asArchive : ExportOptions where
  includeVectors := true
  asZip := true

/-- The file of a manifest. -/
def manifestFile (ext : Externals) (opts : ExportOptions) (source : ExportSource) : Content :=
  .json (manifestOf ext opts source) 0

theorem hash_eq_iff {a b : Content} :
  ext.blake3 a = ext.blake3 b ↔ a = b ∨ Clash ext a b
  := by
  rw [Clash]
  constructor
  · intro h
    by_cases hab : a = b
    · exact .inl hab
    · exact .inr ⟨hab, h⟩
  · rintro (rfl | ⟨-, h⟩)
    · rfl
    · exact h

/-! ### What the manifest made anew is of -/

theorem localSnapshot_of_reads {vault : Dir Content} {source : ExportSource}
    {key : Option String} {file : SqliteFile} {asZip : Bool}
    (h : ReadsExport ext host vault { includeVectors := true, asZip } source key file) :
  localSnapshot ext host vault asZip
    = .ok ((bundleFiles source).write manifestPath
        (manifestFile ext { includeVectors := true, asZip } source),
      blake3HexPrefixed ext (manifestFile ext { includeVectors := true, asZip } source))
  := by
  simp [localSnapshot, exportBundle_of_reads h, computeManifestHash, manifestFile]

theorem recoveryEscrowExportBlock_congr {db db' : Db}
    (h : db'.recoveryEscrowConfigs = db.recoveryEscrowConfigs) :
  recoveryEscrowExportBlock db' = recoveryEscrowExportBlock db
  := by
  simp only [recoveryEscrowExportBlock, h]

/-- A vault counts as unchanged exactly when the manifest made anew has the hash that was
recorded. -/
theorem settled_iff {vault : Dir Content} {source : ExportSource} {key : Option String}
    {file recorded : SqliteFile} {hash : String}
    (h : ReadsExport ext host vault asFolder source key file)
    (hfile : Vault.dbFile vault = some recorded)
    (hrow : recorded.db.readState "sync_last_applied_manifest_hash" = some hash) :
  Settled ext host vault ↔ blake3HexPrefixed ext (manifestFile ext asFolder source) = hash
  := by
  have hlast : lastAppliedManifest vault = some hash := by
    simp [lastAppliedManifest, Vault.db, hfile, hrow]
  rw [Settled, localSnapshot_of_reads h, hlast]
  constructor
  · intro hs
    exact (Option.some.inj (hs _ _ rfl)).symm
  · rintro rfl bundle hash h
    cases h
    rfl

/-- Rows written to the database change what an export reads in the database file only. -/
theorem readsExport_recorded {vault : Dir Content} {opts : ExportOptions}
    {source : ExportSource} {key : Option String} {file opened : SqliteFile}
    (direction id bundleRelpath hash : String) (nowMs : Int64)
    (h : ReadsExport ext host vault opts source key opened)
    (husual : source.vault.db.relativePath = "db/knowledge.sqlite")
    (hfile : Vault.dbFile vault = some file) :
  let after := recordedFile ext direction id bundleRelpath hash nowMs file
  ∃ opened', ReadsExport ext host (vault.write Vault.dbPath (.sqlite after)) opts
    { source with dbSrc := .sqlite after } key opened'
  := by
  intro after
  have hjson : (vault.write Vault.dbPath (.sqlite after)).get Vault.vaultJsonPath
      = vault.get Vault.vaultJsonPath := by
    rw [Dir.get_write, if_neg (by decide)]
  have hsrc : source.dbSrc = .sqlite file := by
    have := h.dbSrc
    rw [husual, relPath_usualPlace, Vault.dbFile_eq_some.mp hfile] at this
    exact (Option.some.inj this).symm
  have hopened := h.opened
  rw [hsrc] at hopened
  have hkey : after.key = file.key := by simp [after]
  have hversion : after.db.userVersion = file.db.userVersion := by simp [after]
  obtain ⟨opened', hopened'⟩ := Vault.openDbFile_isOk_congr hkey hversion hopened
  have hobjects : opened'.db.objects = opened.db.objects := by
    simp [(Vault.openDbFile_tables hopened).1, (Vault.openDbFile_tables hopened').1, after]
  have hescrow : opened'.db.recoveryEscrowConfigs = opened.db.recoveryEscrowConfigs := by
    simp [(Vault.openDbFile_tables hopened).1, (Vault.openDbFile_tables hopened').1, after]
  refine ⟨opened', ?_, ?_, ?_, hopened', ?_, ?_, ?_⟩
  · rw [Vault.vaultOpen_congr hjson, h.configured]
  · rw [husual, relPath_usualPlace, Dir.get_write, if_pos rfl]
  · rw [Vault.dbEncryptionKey_congr hjson, h.unlocked]
  · rw [hobjects]
    apply exportObjects_congr h.objects
    intro object hobject
    obtain ⟨row, -, hrow⟩ := exists_row_of_mem h.objects hobject
    rw [Dir.get_write, if_neg (dbPath_ne_objectPath hrow.path), hrow.stored]
  · rw [recoveryEscrowExportBlock_congr hescrow, h.recoveryEscrow]
  · rw [h.vectors]
    simp only [exportedVectors]
    split
    · apply Dir.listFiles_congr
      intro q hq
      rw [Dir.get_write, if_neg]
      rintro rfl
      exact absurd (under_vectorsDir hq) (by decide)
    · rfl

/-! ### After a push -/

/-- Whether the manifest made anew after a push to a file target has the hash of the one that
was pushed: the rows of the push leave the hash of the database file as it was. -/
def PushSettles (ext : Externals) (nowMs : Int64) (source : ExportSource) (file : SqliteFile) :
    Prop :=
  let hash := blake3HexPrefixed ext (manifestFile ext asFolder source)
  let id := snapshotIdForManifest ext hash nowMs
  let after := recordedFile ext "push" id ("snapshots/" ++ id) hash nowMs file
  ext.blake3 (.sqlite after) = ext.blake3 (.sqlite file)
    ∨ Clash ext (manifestFile ext asFolder { source with dbSrc := .sqlite after })
      (manifestFile ext asFolder source)

/-- Whether the manifest made anew after a push to a remote target has the hash of the one that
was pushed. It is another manifest. -/
def S3PushSettles (ext : Externals) (nowMs : Int64) (source : ExportSource)
    (file : SqliteFile) : Prop :=
  let hash := blake3HexPrefixed ext (manifestFile ext asArchive source)
  let id := snapshotIdForManifest ext hash nowMs
  let after := recordedFile ext "push" id (snapshotKey id) hash nowMs file
  Clash ext (manifestFile ext asFolder { source with dbSrc := .sqlite after })
    (manifestFile ext asArchive source)

theorem manifestFile_inj {opts : ExportOptions} {source source' : ExportSource} :
  manifestFile ext opts source = manifestFile ext opts source'
    ↔ manifestOf ext opts source = manifestOf ext opts source'
  := by
  simp [manifestFile]

theorem manifestFile_folder_ne_archive {source source' : ExportSource} :
  manifestFile ext asFolder source ≠ manifestFile ext asArchive source'
  := by
  intro h
  simp only [manifestFile, Content.json.injEq, and_true] at h
  exact manifestOf_zip_ne_folder h.symm

/-- What a vault exports, if its database is at the usual place, is its database file. -/
theorem dbSrc_eq {source : ExportSource} {key : Option String} {file opened : SqliteFile}
    {opts : ExportOptions} (h : ReadsExport ext host s.vault opts source key opened)
    (husual : source.vault.db.relativePath = "db/knowledge.sqlite")
    (hfile : Vault.dbFile s.vault = some file) :
  source.dbSrc = .sqlite file
  := by
  have := h.dbSrc
  rw [husual, relPath_usualPlace, Vault.dbFile_eq_some.mp hfile] at this
  exact (Option.some.inj this).symm

theorem push_settled_iff {file : SqliteFile} {source : ExportSource} {r : SyncPushResultV1}
    {s' : Site} (hfile : Vault.dbFile s.vault = some file)
    (hread : readExportSource ext host s.vault asFolder = .ok source)
    (husual : source.vault.db.relativePath = "db/knowledge.sqlite")
    (hrun : (syncPush ext target nowMs).eval (perform ext host) s = (.ok r, s')) :
  Settled ext host s'.vault ↔ PushSettles ext nowMs source file
  := by
  obtain ⟨file', vault, head, bundle, hash, hr, hc⟩ :
      ∃ file vault head bundle hash, PushReads ext host s file vault head bundle hash
        ∧ ¬ Diverged head file.db hash := by
    by_contra h
    obtain ⟨e, s'', herr, -⟩ := eval_syncPush_refused target nowMs h
    rw [hrun] at herr
    cases herr
  obtain rfl : file = file' := by simpa [hfile] using hr.opened
  obtain ⟨key, opened, hreads⟩ := readExportSource_eq_ok.mp hread
  obtain rfl : blake3HexPrefixed ext (manifestFile ext asFolder source) = hash := by
    have := hr.exported
    rw [localSnapshot_of_reads hreads] at this
    cases this
    rfl
  rw [eval_syncPush hr hc] at hrun
  cases hrun
  let id := snapshotIdForManifest ext (blake3HexPrefixed ext (manifestFile ext asFolder source))
    nowMs
  obtain ⟨opened', hreads'⟩ := readsExport_recorded "push" id ("snapshots/" ++ id)
    (blake3HexPrefixed ext (manifestFile ext asFolder source)) nowMs hreads husual hfile
  apply (settled_iff hreads' (dbFile_write _ _) readState_recordedFile_applied).trans
  rw [blake3HexPrefixed_inj, hash_eq_iff, manifestFile_inj, manifestOf_inj, PushSettles]
  simp only [true_and, and_true, dbSrc_eq hreads husual hfile]
  rfl

theorem s3Push_settled_iff {file : SqliteFile} {source : ExportSource} {r : SyncPushResultV1}
    {s' : Site} (hfile : Vault.dbFile s.vault = some file)
    (hread : readExportSource ext host s.vault asFolder = .ok source)
    (husual : source.vault.db.relativePath = "db/knowledge.sqlite")
    (hrun : (syncPushS3Target ext host target nowMs).eval (perform ext host) s = (.ok r, s')) :
  Settled ext host s'.vault ↔ S3PushSettles ext nowMs source file
  := by
  obtain ⟨file', plan, head, newHead, ha⟩ : ∃ file plan head newHead,
      S3PushAccepts ext host target nowMs s file plan head newHead := by
    by_contra h
    obtain ⟨e, s'', herr, -⟩ := eval_syncPushS3Target_refused h
    rw [hrun] at herr
    cases herr
  obtain rfl : file = file' := by simpa [hfile] using ha.opened
  obtain ⟨key, opened, hreads⟩ := readExportSource_eq_ok.mp hread
  have hzip : readExportSource ext host s.vault asArchive = .ok source := hread
  obtain ⟨key', opened', hreadsZip⟩ := readExportSource_eq_ok.mp hzip
  have hhash : plan.localManifestHash
      = blake3HexPrefixed ext (manifestFile ext asArchive source) := by
    have := ha.exported
    rw [localSnapshot_of_reads hreadsZip] at this
    simp only [Except.ok.injEq, Prod.mk.injEq] at this
    exact this.2.symm
  obtain ⟨signature, hhead⟩ := signHead_eq_ok ha.signed
  rw [eval_syncPushS3Target ha] at hrun
  cases hrun
  let id := snapshotIdForManifest ext plan.localManifestHash nowMs
  obtain ⟨opened'', hreads'⟩ := readsExport_recorded "push" id (snapshotKey id)
    plan.localManifestHash nowMs hreads husual hfile
  have hvault : (pushedS3 ext nowMs file plan newHead s).vault
      = s.vault.write Vault.dbPath (.sqlite (recordedFile ext "push" id (snapshotKey id)
        plan.localManifestHash nowMs file)) := by
    rw [hhead]
    rfl
  rw [hvault, settled_iff hreads' (dbFile_write _ _) readState_recordedFile_applied, hhash,
    blake3HexPrefixed_inj, hash_eq_iff, S3PushSettles]
  simp only [manifestFile_folder_ne_archive, false_or, id, hhash]

/-! ### After a pull -/

/-- What an export reads from a vault that has pulled an export: the configuration of the
vault, the database file with the rows of the pull, and the objects of the export. The vector
index is that of the export if the export has one. -/
def pulledSource (ext : Externals) (head : SyncHeadV1) (bundleRelpath : String) (nowMs : Int64)
    (config : VaultJsonV3) (src vault : Dir Content) (source : ExportSource)
    (opened : SqliteFile) : ExportSource where
  vault := config
  dbSrc := .sqlite (recordedFile ext "pull" head.snapshotId bundleRelpath head.manifestHash
    nowMs opened)
  recoveryEscrow := source.recoveryEscrow
  objects := source.objects
  vectors :=
    if src.contains TopDir.index.path then source.vectors else vault.listFiles vectorsDir

/-- The rows of a database file that has been opened from that of an export. -/
theorem exports_opened {src : Dir Content} {opts : ExportOptions} {source : ExportSource}
    {key : Option String} {opened : SqliteFile} (h : IsExport ext src opts source)
    (hopen : Vault.openDbFile ext key (some source.dbSrc) = .ok opened) :
  (∃ vaultDir, exportObjects ext vaultDir opened.db.objects.toList = .ok source.objects)
    ∧ recoveryEscrowExportBlock opened.db = .ok source.recoveryEscrow
  := by
  obtain ⟨file, vaultDir, hsrc, ho, he, -⟩ := h.exists_dbFile
  rw [hsrc] at hopen
  rw [(Vault.openDbFile_tables hopen).1]
  exact ⟨⟨vaultDir, ho⟩, he⟩

theorem readsExport_pulled {src vault : Dir Content} {opts : ExportOptions}
    {source : ExportSource} {config : VaultJsonV3} {key : Option String} {opened : SqliteFile}
    (head : SyncHeadV1) (bundleRelpath : String) (nowMs : Int64)
    (h : IsExport ext src opts source) (hopts : opts.includeVectors = true)
    (htop : TreesAreDirectories src) (hconfig : Vault.vaultOpen host vault = .ok config)
    (husual : config.db.relativePath = "db/knowledge.sqlite")
    (hkey : Vault.dbEncryptionKey host (applied src vault) = .ok key)
    (hopen : Vault.openDbFile ext key ((applied src vault).get Vault.dbPath) = .ok opened) :
  ReadsExport ext host (pulled ext head bundleRelpath nowMs src vault opened) asFolder
    (pulledSource ext head bundleRelpath nowMs config src vault source opened) key
    (recordedFile ext "pull" head.snapshotId bundleRelpath head.manifestHash nowMs opened)
  := by
  have happlies : Applies src vault (pulled ext head bundleRelpath nowMs src vault opened) :=
    applies_pulled htop hopen
  have hdb : src.contains TopDir.db.path = true :=
    Dir.contains_of_get (by decide) h.get_dbPath
  have hopenSrc : Vault.openDbFile ext key (some source.dbSrc) = .ok opened := by
    rw [← h.get_dbPath, ← hopen, get_dbPath_applied htop, if_pos hdb]
  obtain ⟨⟨vaultDir, ho⟩, he⟩ := exports_opened h hopenSrc
  have hjson : (applied src vault).get Vault.vaultJsonPath = vault.get Vault.vaultJsonPath := by
    apply get_applied_of_not
    intro top _
    cases top <;> rfl
  have hjson' : (pulled ext head bundleRelpath nowMs src vault opened).get Vault.vaultJsonPath
      = (applied src vault).get Vault.vaultJsonPath := by
    rw [pulled, Dir.get_write, if_neg (by decide)]
  obtain ⟨hk, hversion⟩ := Vault.openDbFile_eq_ok hopen
  refine ⟨?_, ?_, ?_, ?_, ?_, ?_, ?_⟩
  · rw [Vault.vaultOpen_congr (hjson'.trans hjson), hconfig]
    rfl
  · have hrel : relPath config.db.relativePath = Vault.dbPath := by
      rw [husual, relPath_usualPlace]
    simp only [pulledSource, hrel, pulled, Dir.get_write, if_pos]
  · rw [Vault.dbEncryptionKey_congr hjson', hkey]
  · apply Vault.openDbFile_latest
    · simp [hk]
    · simp [hversion]
  · rw [objects_recordedFile]
    apply exportObjects_congr ho
    intro object hobject
    obtain ⟨row, -, hrow⟩ := exists_row_of_mem ho hobject
    have hu : Dir.under TopDir.store.path object.path = true :=
      TopDir.under_path.mpr (head_objectPath hrow.path)
    have hget := h.get_object hobject
    rw [happlies.copied .store _ (Dir.contains_of_get hu hget) hu
      (dbPath_ne_objectPath hrow.path).symm, hget]
  · rw [recoveryEscrowExportBlock_congr recoveryEscrowConfigs_recordedFile, he]
    rfl
  · have hne (q : RelPath) (hq : Dir.under vectorsDir q = true) : q ≠ Vault.dbPath := by
      rintro rfl
      exact absurd (under_vectorsDir hq) (by decide)
    simp only [pulledSource, exportedVectors, asFolder, if_true]
    cases hindex : src.contains TopDir.index.path with
    | true =>
      rw [if_pos rfl, ← h.listFiles_vectorsDir hopts]
      apply Dir.listFiles_congr
      intro q hq
      exact (happlies.copied .index q hindex (TopDir.under_path.mpr (under_vectorsDir hq))
        (hne q hq)).symm
    | false =>
      rw [if_neg (by decide)]
      apply Dir.listFiles_congr
      intro q hq
      apply (happlies.kept q _ (hne q hq)).symm
      intro top htop'
      by_contra hu
      obtain rfl := under_unique (by simpa using hu)
        (TopDir.under_path.mpr (under_vectorsDir hq) : Dir.under TopDir.index.path q = true)
      simp [hindex] at htop'

/-- Whether the manifest made anew after a pull from a file target has the hash of the one that
was pulled: the two vaults are configured alike, the database file keeps its hash when it is
opened and the rows of the pull are written, and no vector index is left over. -/
def PullSettles (ext : Externals) (nowMs : Int64) (head : SyncHeadV1) (config : VaultJsonV3)
    (src vault : Dir Content) (source : ExportSource) (opened : SqliteFile) : Prop :=
  let anew := pulledSource ext head ("snapshots/" ++ head.snapshotId) nowMs config src vault
    source opened
  (configOf config = configOf source.vault
      ∧ ext.blake3 anew.dbSrc = ext.blake3 source.dbSrc
      ∧ (src.contains TopDir.index.path = true ∨ vault.listFiles vectorsDir = []))
    ∨ Clash ext (manifestFile ext asFolder anew) (manifestFile ext asFolder source)

/-- Whether the manifest made anew after a pull from a remote target has the hash of the one
that was pulled. It is another manifest. -/
def S3PullSettles (ext : Externals) (nowMs : Int64) (head : SyncHeadV1) (config : VaultJsonV3)
    (src vault : Dir Content) (source : ExportSource) (opened : SqliteFile) : Prop :=
  Clash ext
    (manifestFile ext asFolder (pulledSource ext head (snapshotKey head.snapshotId) nowMs config
      src vault source opened))
    (manifestFile ext asArchive source)

/-- Without a tree for it, an export has no vector index. -/
theorem vectors_eq_nil {src : Dir Content} {opts : ExportOptions} {source : ExportSource}
    (h : IsExport ext src opts source) (hopts : opts.includeVectors = true)
    (hindex : src.contains TopDir.index.path = false) :
  source.vectors = []
  := by
  rw [← h.listFiles_vectorsDir hopts, List.eq_nil_iff_forall_not_mem]
  rintro ⟨q, c⟩ hmem
  obtain ⟨hu, hget⟩ := Dir.mem_listFiles.mp hmem
  have := Dir.contains_of_get (TopDir.under_path.mpr (under_vectorsDir hu) :
    Dir.under TopDir.index.path q = true) hget
  simp [hindex] at this

theorem vectorsOf_eq_iff {src vault : Dir Content} {opts : ExportOptions}
    {source : ExportSource} (h : IsExport ext src opts source)
    (hopts : opts.includeVectors = true) :
  vectorsOf ext (if src.contains TopDir.index.path then source.vectors
      else vault.listFiles vectorsDir) = vectorsOf ext source.vectors
    ↔ src.contains TopDir.index.path = true ∨ vault.listFiles vectorsDir = []
  := by
  cases hindex : src.contains TopDir.index.path with
  | true => simp
  | false =>
    rw [vectors_eq_nil h hopts hindex]
    simp only [Bool.false_eq_true, if_false, false_or]
    constructor
    · intro heq
      have hlength := congrArg List.length heq
      simpa [vectorsOf, List.length_insertionSort] using hlength
    · intro hnil
      rw [hnil]

/-- The database of an export that is pulled is opened as it is in the export. -/
theorem opened_unique {src vault : Dir Content} {opts : ExportOptions} {source : ExportSource}
    {key key' : Option String} {opened opened' : SqliteFile}
    (hsrc : IsExport ext src opts source) (htop : TreesAreDirectories src)
    (hkey : Vault.dbEncryptionKey host vault = .ok key)
    (hopen : Vault.openDbFile ext key (some source.dbSrc) = .ok opened)
    (hkey' : Vault.dbEncryptionKey host (applied src vault) = .ok key')
    (hopen' : Vault.openDbFile ext key' ((applied src vault).get Vault.dbPath) = .ok opened') :
  opened' = opened
  := by
  have hdb : src.contains TopDir.db.path = true :=
    Dir.contains_of_get (by decide) hsrc.get_dbPath
  have hjson : (applied src vault).get Vault.vaultJsonPath = vault.get Vault.vaultJsonPath := by
    apply get_applied_of_not
    intro top _
    cases top <;> rfl
  rw [Vault.dbEncryptionKey_congr hjson, hkey] at hkey'
  cases hkey'
  rw [get_dbPath_applied htop, if_pos hdb, hsrc.get_dbPath, hopen] at hopen'
  exact (Except.ok.inj hopen').symm

theorem pull_settled_iff {mode : Option SyncAutoMergeMode} {strictAuth : Bool}
    {source : ExportSource} {config : VaultJsonV3} {key : Option String} {opened : SqliteFile}
    {r : SyncPullResultV1} {s' : Site}
    (hsrc : IsExport ext (s.snapshot r.remoteHead.snapshotId) asFolder source)
    (hhash : r.remoteHead.manifestHash
      = blake3HexPrefixed ext (manifestFile ext asFolder source))
    (hconfig : Vault.vaultOpen host s.vault = .ok config)
    (husual : config.db.relativePath = "db/knowledge.sqlite")
    (hkey : Vault.dbEncryptionKey host s.vault = .ok key)
    (hopen : Vault.openDbFile ext key (some source.dbSrc) = .ok opened)
    (hrun : (syncPullWithMode ext target nowMs mode strictAuth).eval (perform ext host) s
      = (.ok r, s')) :
  Settled ext host s'.vault ↔ PullSettles ext nowMs r.remoteHead config
    (s.snapshot r.remoteHead.snapshotId) s.vault source opened
  := by
  obtain ⟨head, -, hfinish⟩ := eval_syncPullWithMode_eq_ok.mp hrun
  obtain ⟨-, htop, rfl, key', opened', hkey', hopen', rfl⟩ := eval_finishPull_eq_ok.mp hfinish
  have hreads := readsExport_pulled head ("snapshots/" ++ head.snapshotId) nowMs hsrc rfl htop
    hconfig husual hkey' hopen'
  obtain rfl := opened_unique hsrc htop hkey hopen hkey' hopen'
  refine (settled_iff hreads (dbFile_write _ _) readState_recordedFile_applied).trans ?_
  have hh : head.manifestHash = blake3HexPrefixed ext (manifestFile ext asFolder source) := hhash
  rw [hh, blake3HexPrefixed_inj, hash_eq_iff, manifestFile_inj, manifestOf_inj, PullSettles]
  simp only [pulledSource, vectorsOf_eq_iff hsrc rfl, true_and]
  rfl

theorem s3Pull_settled_iff {mode : Option SyncAutoMergeMode} {strictAuth : Bool}
    {src : Dir Content} {source : ExportSource} {config : VaultJsonV3} {key : Option String}
    {opened : SqliteFile} {r : SyncPullResultV1} {s' : Site}
    (haccepts : S3Accepts ext s r.remoteHead src)
    (hsrc : IsExport ext src asArchive source)
    (hhash : r.remoteHead.manifestHash
      = blake3HexPrefixed ext (manifestFile ext asArchive source))
    (hconfig : Vault.vaultOpen host s.vault = .ok config)
    (husual : config.db.relativePath = "db/knowledge.sqlite")
    (hkey : Vault.dbEncryptionKey host s.vault = .ok key)
    (hopen : Vault.openDbFile ext key (some source.dbSrc) = .ok opened)
    (hrun : (syncPullS3Target ext host target nowMs mode strictAuth).eval (perform ext host) s
      = (.ok r, s')) :
  Settled ext host s'.vault ↔ S3PullSettles ext nowMs r.remoteHead config src s.vault source
    opened
  := by
  obtain ⟨head, archive, dir, hfinds, rfl, htop, key', opened', hkey', hopen', hs⟩ :=
    eval_syncPullS3Target_ok hrun
  obtain ⟨-, archive', hstored, hunpacked⟩ := haccepts
  obtain rfl : dir = src := by
    have hstored : s.bucket[snapshotKey head.snapshotId]? = some archive' := hstored
    obtain rfl : archive = archive' := by simpa [hfinds.stored] using hstored
    simpa [hfinds.unpacked] using hunpacked
  have hreads := readsExport_pulled head (snapshotKey head.snapshotId) nowMs hsrc rfl htop
    hconfig husual hkey' hopen'
  obtain rfl := opened_unique hsrc htop hkey hopen hkey' hopen'
  have hh : head.manifestHash = blake3HexPrefixed ext (manifestFile ext asArchive source) := hhash
  rw [hs]
  refine (settled_iff hreads (dbFile_write _ _) readState_recordedFile_applied).trans ?_
  rw [hh, blake3HexPrefixed_inj, hash_eq_iff, S3PullSettles]
  simp only [manifestFile_folder_ne_archive, false_or]
  rfl

/-! ### After any synchronisation -/

/-- The last synchronisation of a vault, by a push or a pull on either transport, and when the
manifest made anew after it has the hash it has left. A pull is of what a vault has pushed. -/
inductive LastSync (ext : Externals) (host : Host) : Site → Site → Prop → Prop
  | push {s s' : Site} {target : String} {nowMs : Int64} {file : SqliteFile}
      {source : ExportSource} {r : SyncPushResultV1}
      (opened : Vault.dbFile s.vault = some file)
      (exported : readExportSource ext host s.vault asFolder = .ok source)
      (usualPlace : source.vault.db.relativePath = "db/knowledge.sqlite")
      (run : (syncPush ext target nowMs).eval (perform ext host) s = (.ok r, s')) :
      LastSync ext host s s' (PushSettles ext nowMs source file)
  | s3Push {s s' : Site} {target : String} {nowMs : Int64} {file : SqliteFile}
      {source : ExportSource} {r : SyncPushResultV1}
      (opened : Vault.dbFile s.vault = some file)
      (exported : readExportSource ext host s.vault asFolder = .ok source)
      (usualPlace : source.vault.db.relativePath = "db/knowledge.sqlite")
      (run : (syncPushS3Target ext host target nowMs).eval (perform ext host) s = (.ok r, s')) :
      LastSync ext host s s' (S3PushSettles ext nowMs source file)
  | pull {s s' : Site} {target : String} {nowMs : Int64} {mode : Option SyncAutoMergeMode}
      {strictAuth : Bool} {source : ExportSource} {config : VaultJsonV3} {key : Option String}
      {opened : SqliteFile} {r : SyncPullResultV1}
      (pushed : IsExport ext (s.snapshot r.remoteHead.snapshotId) asFolder source)
      (headOf : r.remoteHead.manifestHash
        = blake3HexPrefixed ext (manifestFile ext asFolder source))
      (configured : Vault.vaultOpen host s.vault = .ok config)
      (usualPlace : config.db.relativePath = "db/knowledge.sqlite")
      (unlocked : Vault.dbEncryptionKey host s.vault = .ok key)
      (openable : Vault.openDbFile ext key (some source.dbSrc) = .ok opened)
      (run : (syncPullWithMode ext target nowMs mode strictAuth).eval (perform ext host) s
        = (.ok r, s')) :
      LastSync ext host s s' (PullSettles ext nowMs r.remoteHead config
        (s.snapshot r.remoteHead.snapshotId) s.vault source opened)
  | s3Pull {s s' : Site} {target : String} {nowMs : Int64} {mode : Option SyncAutoMergeMode}
      {strictAuth : Bool} {src : Dir Content} {source : ExportSource} {config : VaultJsonV3}
      {key : Option String} {opened : SqliteFile} {r : SyncPullResultV1}
      (accepted : S3Accepts ext s r.remoteHead src)
      (pushed : IsExport ext src asArchive source)
      (headOf : r.remoteHead.manifestHash
        = blake3HexPrefixed ext (manifestFile ext asArchive source))
      (configured : Vault.vaultOpen host s.vault = .ok config)
      (usualPlace : config.db.relativePath = "db/knowledge.sqlite")
      (unlocked : Vault.dbEncryptionKey host s.vault = .ok key)
      (openable : Vault.openDbFile ext key (some source.dbSrc) = .ok opened)
      (run : (syncPullS3Target ext host target nowMs mode strictAuth).eval (perform ext host) s
        = (.ok r, s')) :
      LastSync ext host s s'
        (S3PullSettles ext nowMs r.remoteHead config src s.vault source opened)

/-- A vault that has not been touched since its last synchronisation counts as unchanged
exactly when that synchronisation has left it settled. -/
theorem settled_after_sync_iff {before after : Site} {settles : Prop}
    (h : LastSync ext host before after settles) :
  Settled ext host after.vault ↔ settles
  := by
  cases h with
  | push opened exported usualPlace run => exact push_settled_iff opened exported usualPlace run
  | s3Push opened exported usualPlace run =>
    exact s3Push_settled_iff opened exported usualPlace run
  | pull pushed headOf configured usualPlace unlocked openable run =>
    exact pull_settled_iff pushed headOf configured usualPlace unlocked openable run
  | s3Pull accepted pushed headOf configured usualPlace unlocked openable run =>
    exact s3Pull_settled_iff accepted pushed headOf configured usualPlace unlocked openable run

/-- An empty vault, and the same after its first push. -/
def Sample.beforePush : Site where
  vault := Sample.vault Sample.db []
  target := Sample.noTarget
  bucket := ∅

def Sample.afterPush : Site :=
  ((syncPush Sample.ext "target" 1000).eval (perform Sample.ext Sample.host)
    Sample.beforePush).2

theorem settled_after_first_push_iff :
  ∃ source file, Settled Sample.ext Sample.host Sample.afterPush.vault
    ↔ PushSettles Sample.ext 1000 source file
  := by
  have hfile : Vault.dbFile Sample.beforePush.vault = some ⟨Sample.db, none, 0⟩ := by rfl
  have hread : (readExportSource Sample.ext Sample.host Sample.beforePush.vault asFolder).toOption.any
      (fun source => source.vault.db.relativePath == "db/knowledge.sqlite") = true := by
    decide +kernel
  have hok : ((syncPush Sample.ext "target" 1000).eval (perform Sample.ext Sample.host)
    Sample.beforePush).1.isOk = true := by decide +kernel
  obtain ⟨source, hsource, husual⟩ := exists_of_any hread
  use source, ⟨Sample.db, none, 0⟩
  obtain ⟨r, s', hrun⟩ := exists_run_of_isOk hok
  have hafter : Sample.afterPush = s' := by rw [Sample.afterPush, hrun]
  rw [hafter]
  exact settled_after_sync_iff (.push hfile hsource (eq_of_beq husual) hrun)

/-- The vault has not been touched since the push, another vault has pushed after it, and the
next pull fails with a conflict. -/
theorem untouched_vault_conflicts :
  ¬ Settled Sample.ext Sample.host Sample.afterPush.vault
    ∧ ∃ e, ((syncPullWithMode Sample.ext "target" 2000 none false).eval
      (perform Sample.ext Sample.host) { Sample.afterPush with
        target := Sample.target (fileHead "snapshot-of-another-vault" "blake3:00" 1500) [] }).1
          = .error e ∧ e.code = "KC_SYNC_CONFLICT"
  := by
  obtain ⟨hanew, hconflict⟩ :
      (localSnapshot Sample.ext Sample.host Sample.afterPush.vault false).toOption.any
        (fun snapshot => lastAppliedManifest Sample.afterPush.vault != some snapshot.2) = true
      ∧ (match ((syncPullWithMode Sample.ext "target" 2000 none false).eval
          (perform Sample.ext Sample.host) { Sample.afterPush with
            target := Sample.target (fileHead "snapshot-of-another-vault" "blake3:00" 1500)
              [] }).1 with
        | .error e => e.code == "KC_SYNC_CONFLICT"
        | .ok _ => false) = true := by
    decide +kernel
  constructor
  · intro hsettled
    obtain ⟨⟨bundle, hash⟩, hlocal, hnew⟩ := exists_of_any hanew
    apply bne_iff_ne.mp hnew
    apply hsettled bundle hash hlocal
  · split at hconflict
    · next e heq => exact ⟨e, heq, by simpa using hconflict⟩
    · cases hconflict

end Sync

end KnowledgeCore
