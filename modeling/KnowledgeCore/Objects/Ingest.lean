import Mathlib.Data.List.Lex
import Mathlib.Data.String.Basic
import KnowledgeCore.ObjectStore

/-!
# Ingesting files

A file is ingested by putting its bytes into the object store and a row for the document into
the database. The command line scans a folder or takes one file out of the inbox, and so does
the remote interface. Each of them makes its own object store.
-/

namespace KnowledgeCore

/-- The machine a vault is on: the directory of the vault with its configuration and its
database, and the other files under their paths, the objects among them. -/
structure Machine where
  vault : Dir Content
  files : Files

/-- What the surroundings decide while files are ingested: the clock, the times of the files,
where the object of a file stops being written, and whether a file can be moved. -/
structure Moment where
  clock : String → Int64
  modifiedMs : String → Option Int64
  stops : String → Option Nat
  canMove : Bool

namespace Ingest

structure IngestedDoc where
  docId : String
  originalObjectHash : String
  bytes : Int64
  mime : String
  sourceKind : String
  effectiveTsMs : Int64

structure IngestBytesReq where
  bytes : List UInt8
  mime : String
  sourceKind : String
  effectiveTsMs : Int64
  sourcePath : Option String

structure IngestInboxStartResult where
  jobId : String
  docId : String

def ingestError (code message : String) (details : List (String × Json)) : AppError where
  code := code
  category := "ingest"
  message := message
  details := .obj details

/-! ### Limits -/

def INGEST_SINGLE_FILE_MAX_BYTES : Nat := 100 * (1024 * 1024)
def SCAN_FOLDER_MAX_FILES : Nat := 10000
def SCAN_FOLDER_MAX_DEPTH : Nat := 12

def validateIngestBytesLimits (bytesLen : Nat) : AppResult Unit :=
  if bytesLen > INGEST_SINGLE_FILE_MAX_BYTES then
    .error (ingestError "KC_RESOURCE_LIMIT_EXCEEDED"
      "ingest payload exceeds configured byte limit"
      [("bytes", .int bytesLen), ("max_bytes", .int INGEST_SINGLE_FILE_MAX_BYTES)])
  else
    .ok ()

/-- How far below the root of a scan a file is. -/
def scanDepth (scanRoot file : String) : Nat :=
  if (PathBuf.components scanRoot).isPrefixOf (PathBuf.components file) then
    (PathBuf.components file).length - (PathBuf.components scanRoot).length
  else
    (PathBuf.components file).length

/-- Check the depth and the size of one of the files of a scan. -/
def validateScanFolderFile (files : Files) (scanRoot file : String) : AppResult Unit :=
  if scanDepth scanRoot file > SCAN_FOLDER_MAX_DEPTH then
    .error (ingestError "KC_RESOURCE_LIMIT_EXCEEDED"
      "scan-folder file exceeds configured traversal depth"
      [("path", .str file), ("depth", .int (scanDepth scanRoot file)),
        ("max_depth", .int SCAN_FOLDER_MAX_DEPTH), ("scan_root", .str scanRoot)])
  else
    match files[file]? with
    | none =>
      .error (ingestError "KC_INGEST_READ_FAILED" "failed reading scan file metadata"
        [("error", .str "No such file or directory"), ("path", .str file)])
    | some bytes =>
      if bytes.length > INGEST_SINGLE_FILE_MAX_BYTES then
        .error (ingestError "KC_RESOURCE_LIMIT_EXCEEDED"
          "scan-folder file exceeds configured byte limit"
          [("path", .str file), ("bytes", .int bytes.length),
            ("max_bytes_per_file", .int INGEST_SINGLE_FILE_MAX_BYTES),
            ("scan_root", .str scanRoot)])
      else
        .ok ()

def validateEach (files : Files) (scanRoot : String) : List String → AppResult Unit
  | [] => .ok ()
  | file :: rest => do
    validateScanFolderFile files scanRoot file
    validateEach files scanRoot rest

def validateScanFolderFiles (files : Files) (scanRoot : String) (found : List String) :
  AppResult Unit
  :=
  if found.length > SCAN_FOLDER_MAX_FILES then
    .error (ingestError "KC_RESOURCE_LIMIT_EXCEEDED"
      "scan-folder exceeds configured file-count limit"
      [("files", .int found.length), ("max_files", .int SCAN_FOLDER_MAX_FILES),
        ("scan_root", .str scanRoot)])
  else
    validateEach files scanRoot found

/-- The files at or below the root of a scan, in the order of their components. -/
def scanFiles (files : Files) (scanRoot : String) : List String :=
  (files.keys.filter fun file =>
      file = scanRoot
        ∨ (PathBuf.withSeparator scanRoot).toList.isPrefixOf file.toList = true).insertionSort
    fun a b => PathBuf.components a ≤ PathBuf.components b

/-! ### One byte string -/

/-- Insert the row of a document, unless it has one. -/
def insertDoc (db : Db) (hash : String) (req : IngestBytesReq) : Db :=
  { db with docs := db.docs.insertIfNew hash {
      originalObjectHash := hash
      bytes := Int64.ofNat req.bytes.length
      mime := req.mime
      sourceKind := req.sourceKind
      effectiveTsMs := req.effectiveTsMs } }

/-- Note where a document came from, unless that is noted already. -/
def insertDocSource (db : Db) (docId : String) : Option String → Db
  | none => db
  | some sourcePath =>
    if ⟨docId, sourcePath⟩ ∈ db.docSources then
      db
    else
      { db with docSources := db.docSources ++ [⟨docId, sourcePath⟩] }

/-- The document as the database has it. -/
def loadIngestedDoc (db : Db) (hash : String) : AppResult IngestedDoc := do
  let row ← okOrElse
    (ingestError "KC_DB_INTEGRITY_FAILED" "failed to load ingested doc"
      [("error", .str "Query returned no rows")])
    db.docs[hash]?
  .ok {
    docId := hash
    originalObjectHash := hash
    bytes := row.bytes
    mime := row.mime
    sourceKind := row.sourceKind
    effectiveTsMs := row.effectiveTsMs }

def ingestBytes (ext : Externals) (store : ObjectStore) (req : IngestBytesReq)
    (stop : Option Nat) (disk : Disk) : AppResult IngestedDoc × Disk
  :=
  match store.putBytes ext req.bytes stop disk with
  | (.error e, after) => (.error e, after)
  | (.ok hash, after) =>
    let db := insertDocSource (insertDoc after.db hash req) hash req.sourcePath
    (loadIngestedDoc db hash, { after with db })

def ingestBytesWithLimits (ext : Externals) (store : ObjectStore) (req : IngestBytesReq)
    (stop : Option Nat) (disk : Disk) : AppResult IngestedDoc × Disk
  :=
  match validateIngestBytesLimits req.bytes.length with
  | .error e => (.error e, disk)
  | .ok () => ingestBytes ext store req stop disk

/-! ### The vault -/

/-- `vault_paths(..).objects_dir` -/
def objectsDir (vaultPath : String) : String :=
  PathBuf.join vaultPath "store/objects"

/-- Open the database that a configuration names. -/
def openDbOf (ext : Externals) (host : Host) (vault : Dir Content) (config : VaultJsonV3) :
  AppResult SqliteFile
  := do
  let key ← Vault.dbEncryptionKey host vault
  Vault.openDbFile ext key (vault.get (Export.relPath config.db.relativePath))

/-- Open the vault and its database. -/
def openVault (ext : Externals) (host : Host) (vault : Dir Content) :
  AppResult (VaultJsonV3 × SqliteFile)
  := do
  let config ← Vault.vaultOpen host vault
  let file ← openDbOf ext host vault config
  .ok (config, file)

/-- The machine after the database of the vault has been opened. -/
def opened (m : Machine) (config : VaultJsonV3) (file : SqliteFile) : Machine :=
  { m with vault := m.vault.write (Export.relPath config.db.relativePath) (.sqlite file) }

/-- The machine after files and tables have been written. -/
def closed (ext : Externals) (m : Machine) (config : VaultJsonV3) (file : SqliteFile)
    (disk : Disk) : Machine where
  vault := m.vault.write (Export.relPath config.db.relativePath)
    (.sqlite (ext.commit file disk.db))
  files := disk.files

/-! ### The command line -/

/-- The ASCII letters of a text in lower case. -/
def toAsciiLowercase (s : String) : String :=
  s.map fun c => if 'A' ≤ c ∧ c ≤ 'Z' then Char.ofNat (c.toNat + 32) else c

def detectMime (path : String) : String :=
  match (PathBuf.extension path).map toAsciiLowercase with
  | some "md" | some "markdown" => "text/markdown"
  | some "html" | some "htm" => "text/html"
  | some "pdf" => "application/pdf"
  | some "txt" => "text/plain"
  | _ => "application/octet-stream"

/-- Ingest one file, into a store without a key. -/
def ingestOne (ext : Externals) (host : Host) (moment : Moment) (sourceKind filePath : String)
    (m : Machine) : AppResult IngestedDoc × Machine
  :=
  match openVault ext host m.vault with
  | .error e => (.error e, m)
  | .ok (config, file) =>
    match m.files[filePath]? with
    | none =>
      (.error (ingestError "KC_INGEST_READ_FAILED" "failed reading file bytes"
        [("error", .str "No such file or directory"), ("path", .str filePath)]),
        opened m config file)
    | some bytes =>
      let (result, disk) := ingestBytesWithLimits ext (ObjectStore.new (objectsDir host.vaultPath)) {
          bytes
          mime := detectMime filePath
          sourceKind
          effectiveTsMs := (moment.modifiedMs filePath).getD (moment.clock filePath)
          sourcePath := some filePath } (moment.stops filePath) ⟨m.files, file.db⟩
      (result, closed ext m config file disk)

/-- Ingest files one after the other, each with a store of its own. -/
def ingestEach (ext : Externals) (host : Host) (moment : Moment) (sourceKind : String) :
    List String → Machine → AppResult Unit × Machine
  | [], m => (.ok (), m)
  | file :: rest, m =>
    match ingestOne ext host moment sourceKind file m with
    | (.error e, after) => (.error e, after)
    | (.ok _, after) => ingestEach ext host moment sourceKind rest after

def ingestScanFolder (ext : Externals) (host : Host) (moment : Moment)
    (scanRoot sourceKind : String) (m : Machine) : AppResult Unit × Machine
  :=
  let found := scanFiles m.files scanRoot
  match validateScanFolderFiles m.files scanRoot found with
  | .error e => (.error e, m)
  | .ok () => ingestEach ext host moment sourceKind found m

/-- The document that was last ingested from a path. -/
def lastDocIdOf (db : Db) (filePath : String) : AppResult String :=
  okOrElse
    (ingestError "KC_DB_INTEGRITY_FAILED" "failed to resolve doc_id for inbox move"
      [("error", .str "Query returned no rows"), ("path", .str filePath)])
    ((db.docSources.reverse.find? fun row => row.sourcePath = filePath).map DocSourceRow.docId)

/-- The name a file gets among the processed ones. -/
def processedName (filePath docId : String) : String :=
  let stem := (PathBuf.fileStem filePath).getD "file"
  let suffix := String.ofList ((docId.toList.drop 7).take 8)
  let name := stem ++ "__" ++ suffix
  match PathBuf.extension filePath with
  | none | some "" => name
  | some ext => PathBuf.withExtension name ext

/-- Where a file of the inbox goes. -/
def processedPath (host : Host) (filePath docId : String) : String :=
  PathBuf.join (PathBuf.join host.vaultPath "Inbox/processed") (processedName filePath docId)

/-- `fs::rename` -/
def renameFile (files : Files) (source target : String) : Files :=
  match files[source]? with
  | none => files
  | some bytes => (files.erase source).insert target bytes

/-- Move a file that has been ingested out of the inbox. -/
def moveProcessed (ext : Externals) (host : Host) (moment : Moment) (filePath : String)
    (m : Machine) : AppResult Unit × Machine
  :=
  match openVault ext host m.vault with
  | .error e => (.error e, m)
  | .ok (config, file) =>
    match lastDocIdOf file.db filePath with
    | .error e => (.error e, opened m config file)
    | .ok docId =>
      let target := processedPath host filePath docId
      if moment.canMove = false then
        (.error (ingestError "KC_INBOX_MOVE_FAILED"
          "failed to move inbox file into processed"
          [("error", .str "Permission denied"), ("from", .str filePath), ("to", .str target)]),
          opened m config file)
      else
        (.ok (),
          { opened m config file with files := renameFile m.files filePath target })

def ingestInboxOnce (ext : Externals) (host : Host) (moment : Moment)
    (filePath sourceKind : String) (m : Machine) : AppResult Unit × Machine
  :=
  match ingestOne ext host moment sourceKind filePath m with
  | (.error e, after) => (.error e, after)
  | (.ok _, after) => moveProcessed ext host moment filePath after

/-! ### The remote interface -/

def mimeForPath (path : String) : String :=
  match PathBuf.extension path with
  | some "md" => "text/markdown"
  | some "html" | some "htm" => "text/html"
  | some "pdf" => "application/pdf"
  | some "txt" => "text/plain"
  | _ => "application/octet-stream"

/-- The object store of a vault whose objects are not encrypted. -/
def objectStoreWithoutPassphrase (host : Host) (config : VaultJsonV3) : AppResult ObjectStore :=
  if config.encryption.enabled then
    .error (encryptionError "KC_ENCRYPTION_REQUIRED"
      "vault is encrypted; provide passphrase-enabled command path"
      [("vault_path", .str host.vaultPath),
        ("hint", .str "use vault encrypt migrate/status flows")])
  else
    .ok (ObjectStore.new (objectsDir host.vaultPath))

/-- Ingest one file into a store that is open. -/
def ingestFile (ext : Externals) (store : ObjectStore) (stop : Option Nat)
    (sourceKind : String) (nowMs : Int64) (message filePath : String) (disk : Disk) :
  AppResult IngestedDoc × Disk
  :=
  match disk.files[filePath]? with
  | none =>
    (.error (ingestError "KC_INGEST_FAILED" message
      [("error", .str "No such file or directory"), ("path", .str filePath)]), disk)
  | some bytes =>
    ingestBytesWithLimits ext store {
      bytes
      mime := mimeForPath filePath
      sourceKind
      effectiveTsMs := nowMs
      sourcePath := some filePath } stop disk

/-- Ingest files one after the other, and count them. -/
def ingestFiles (ext : Externals) (store : ObjectStore) (moment : Moment)
    (sourceKind : String) (nowMs : Int64) :
    List String → Int64 → Disk → AppResult Int64 × Disk
  | [], ingested, disk => (.ok ingested, disk)
  | file :: rest, ingested, disk =>
    match ingestFile ext store (moment.stops file) sourceKind nowMs "failed reading scan file"
      file disk with
    | (.error e, after) => (.error e, after)
    | (.ok _, after) => ingestFiles ext store moment sourceKind nowMs rest (ingested + 1) after

def ingestScanFolderService (ext : Externals) (host : Host) (moment : Moment)
    (scanRoot sourceKind : String) (nowMs : Int64) (m : Machine) : AppResult Int64 × Machine
  :=
  match openVault ext host m.vault with
  | .error e => (.error e, m)
  | .ok (config, file) =>
    match objectStoreWithoutPassphrase host config with
    | .error e => (.error e, opened m config file)
    | .ok store =>
      let found := scanFiles m.files scanRoot
      match validateScanFolderFiles m.files scanRoot found with
      | .error e => (.error e, opened m config file)
      | .ok () =>
        let (result, disk) :=
          ingestFiles ext store moment sourceKind nowMs found 0 ⟨m.files, file.db⟩
        (result, closed ext m config file disk)

def ingestInboxStartService (ext : Externals) (host : Host) (moment : Moment)
    (filePath sourceKind : String) (nowMs : Int64) (m : Machine) :
  AppResult IngestInboxStartResult × Machine
  :=
  match openVault ext host m.vault with
  | .error e => (.error e, m)
  | .ok (config, file) =>
    match objectStoreWithoutPassphrase host config with
    | .error e => (.error e, opened m config file)
    | .ok store =>
      let (result, disk) := ingestFile ext store (moment.stops filePath) sourceKind nowMs
        "failed reading inbox file" filePath ⟨m.files, file.db⟩
      (result.map fun out => {
          jobId := "inbox:" ++ blake3HexPrefixed ext
            (.text (out.docId ++ "\n" ++ toString nowMs))
          docId := out.docId },
        closed ext m config file disk)

/-! ### The configuration stays -/

/-- The database of a vault that opens is not its configuration. -/
theorem dbPath_ne_of_openVault {ext : Externals} {host : Host} {vault : Dir Content}
    {config : VaultJsonV3} {file : SqliteFile}
    (h : openVault ext host vault = .ok (config, file)) :
  Export.relPath config.db.relativePath ≠ Vault.vaultJsonPath
  := by
  simp only [openVault, openDbOf, AppResult.bind_eq_ok] at h
  obtain ⟨config', hconfig, file', ⟨key, -, hfile⟩, h⟩ := h
  cases h
  intro hpath
  rw [hpath] at hfile
  simp only [Vault.vaultOpen, AppResult.bind_eq_ok, okOrElse_eq_ok] at hconfig
  obtain ⟨content, hcontent, value, hvalue, -⟩ := hconfig
  rw [hcontent] at hfile
  cases content with
  | json _ _ => cases hfile
  | _ => cases hvalue

theorem get_opened {ext : Externals} {host : Host} {m : Machine} {config : VaultJsonV3}
    {file : SqliteFile}
    (h : openVault ext host m.vault = .ok (config, file)) :
  (opened m config file).vault.get Vault.vaultJsonPath = m.vault.get Vault.vaultJsonPath
  := by
  rw [opened, Dir.get_write, if_neg (dbPath_ne_of_openVault h)]

theorem get_closed {ext : Externals} {host : Host} {m : Machine} {config : VaultJsonV3}
    {file : SqliteFile} {disk : Disk}
    (h : openVault ext host m.vault = .ok (config, file)) :
  (closed ext m config file disk).vault.get Vault.vaultJsonPath
    = m.vault.get Vault.vaultJsonPath
  := by
  rw [closed, Dir.get_write, if_neg (dbPath_ne_of_openVault h)]

/-- The database opens again with the tables that were written to it. -/
theorem openDbOf_closed {ext : Externals} {host : Host} {m : Machine} {config : VaultJsonV3}
    {file : SqliteFile} {disk : Disk}
    (h : openVault ext host m.vault = .ok (config, file))
    (hversion : disk.db.userVersion = file.db.userVersion) :
  openDbOf ext host (closed ext m config file disk).vault config
    = .ok (ext.commit file disk.db)
  := by
  have hjson : (closed ext m config file disk).vault.get Vault.vaultJsonPath
      = m.vault.get Vault.vaultJsonPath := get_closed h
  simp only [openVault, openDbOf, AppResult.bind_eq_ok] at h
  obtain ⟨config', -, file', ⟨key, hkey, hfile⟩, h⟩ := h
  cases h
  obtain ⟨hfilekey, hlatest⟩ := Vault.openDbFile_eq_ok hfile
  rw [openDbOf, Vault.dbEncryptionKey_congr hjson, hkey, AppResult.ok_bind, closed,
    Dir.get_write, if_pos rfl]
  apply Vault.openDbFile_latest
  · rw [Externals.commit_key, hfilekey]
  · rw [Externals.commit_db, hversion, hlatest]

theorem openVault_closed {ext : Externals} {host : Host} {m : Machine} {config : VaultJsonV3}
    {file : SqliteFile} {disk : Disk}
    (h : openVault ext host m.vault = .ok (config, file))
    (hversion : disk.db.userVersion = file.db.userVersion) :
  openVault ext host (closed ext m config file disk).vault
    = .ok (config, ext.commit file disk.db)
  := by
  have hconfig : Vault.vaultOpen host m.vault = .ok config := by
    obtain ⟨config', hconfig, h⟩ := AppResult.bind_eq_ok.mp h
    obtain ⟨file', -, h⟩ := AppResult.bind_eq_ok.mp h
    cases h
    apply hconfig
  rw [openVault, Vault.vaultOpen_congr (get_closed h), hconfig, AppResult.ok_bind,
    openDbOf_closed h hversion]
  rfl

end Ingest

end KnowledgeCore
