import KnowledgeCore.DbCipher.Migrate
import KnowledgeCore.Lib.PathBuf
import KnowledgeCore.Verifier.Escrow

/-!
# The verification of a bundle

The verifier reads the manifest of a bundle, checks the manifest itself, and then compares the
database, the objects and the vector index with what the manifest says of them. What is wrong with
the manifest ends the verification, what is wrong with the files is collected.
-/

namespace KnowledgeCore

namespace Verifier

open Json (asBool asI64 asStr asArray asObject display isI64 isNull isObject)

/-! ### Directories to verify -/

/-- What the verifier finds at a path. -/
inductive FileEntry
  | missing
  | file (bytes : Content)
  | unreadable (error : String)

/-- A directory to verify: its own path, and what is found at a path joined to it. Joining the
empty path gives the directory, which is no file. -/
structure Folder where
  path : String
  entry : String → FileEntry
  entry_empty : ∀ bytes, entry "" ≠ .file bytes

/-! ### The check of the manifest -/

def verifyFailed (message : String) (details : Json := .obj []) : AppError where
  code := "KC_VERIFY_FAILED"
  category := "verify"
  message := message
  details := details

def noCounts : CheckedCounts where
  objects := 0
  indexes := 0

/-- The manifest of a directory. -/
def readManifest (folder : Folder) : Except String Json :=
  match folder.entry "manifest.json" with
  | .missing => .error "No such file or directory (os error 2)"
  | .unreadable error => .error error
  | .file bytes => bytes.parseJson

/-- The packaging a manifest declares. -/
def packagingFormat (manifest : Json) : Option String :=
  ((manifest.get "packaging").bind (fun x => x.get "format")).bind asStr

/-- The verdict on a manifest that cannot be read. -/
def invalidJson (path error : String) : Verdict :=
  reportFor 20
    [{ code := "MANIFEST_INVALID_JSON", path, expected := none, actual := some error }] noCounts

/-- What is wrong with a manifest. A schema that does not compile stops the program. -/
def manifestErrors (validatorFor : ValidatorFor) (expectedPackagingFormat : String)
    (manifest : Json) :
  AppResult (List VerifyErrorEntry)
  := do
  let validate ← mapErr
    (fun error => verifyFailed "failed compiling manifest schema" (.obj [("error", .str error)]))
    (validatorFor manifestSchema)
  match validate manifest with
  | some firstError =>
    .ok [{
      code := "MANIFEST_SCHEMA_INVALID"
      path := firstError.instancePath
      expected := some firstError.schemaPath
      actual := some firstError.message }]
  | none =>
    if packagingFormat manifest ≠ some expectedPackagingFormat then
      .ok [{
        code := "MANIFEST_SCHEMA_INVALID"
        path := "/packaging/format"
        expected := some expectedPackagingFormat
        actual := packagingFormat manifest }]
    else
      .ok (verifyRecoveryEscrowMetadata manifest).toList

/-! ### The check of the files -/

/-- A text field, empty if it is missing or something else. -/
def textAt (j : Json) (key : String) : String :=
  ((j.get key).bind asStr).getD ""

/-- A boolean field, false if it is missing or something else. -/
def flagAt (j : Json) (key : String) : Bool :=
  ((j.get key).bind asBool).getD false

/-- Whether a block of the manifest says that it is enabled. -/
def isEnabled (manifest : Json) (block : String) : Bool :=
  (((manifest.get block).bind (fun x => x.get "enabled")).bind asBool).getD false

def objectsOf (manifest : Json) : List Json :=
  ((manifest.get "objects").bind asArray).getD []

def vectorsOf (manifest : Json) : List Json :=
  (((manifest.get "indexes").bind (fun x => x.get "vectors")).bind asArray).getD []

def checkedCounts (manifest : Json) : CheckedCounts where
  objects := (objectsOf manifest).length
  indexes := (vectorsOf manifest).length

def isPlaintextSqliteDb (bytes : Content) : Bool :=
  DbCipher.startsWithHeader bytes

/-- The error for a difference between what is expected and what is found. -/
def differs (code path expected : String) (actual : Option String) : VerifyErrorEntry where
  code := code
  path := path
  expected := some expected
  actual := actual

/-- The error, unless what is found is as expected. -/
def unlessEqual (code path expected actual : String) : List VerifyErrorEntry :=
  if actual ≠ expected then [differs code path expected (some actual)] else []

/-- Compare the database with its entry. A file too short for a header is not compared as to its
encryption. -/
def verifyDb (ext : Externals) (folder : Folder) (dbEncryptionEnabled : Bool) (db : Json) :
  List VerifyErrorEntry
  :=
  let path := textAt db "relative_path"
  let expected := textAt db "hash"
  match folder.entry path with
  | .file bytes =>
    unlessEqual "DB_HASH_MISMATCH" path expected (blake3HexPrefixed ext bytes)
      ++ if 16 ≤ ext.byteLen bytes then
          unlessEqual "DB_ENCRYPTION_MISMATCH" path (toString dbEncryptionEnabled)
            (toString !isPlaintextSqliteDb bytes)
        else []
  | _ => [differs "DB_HASH_MISMATCH" path expected none]

/-- The file of an entry: an error if it is missing, and the end of the verification if it is
there and cannot be read. -/
def readEntry (folder : Folder) (what path expected : String) (counts : CheckedCounts)
    (check : Content → List VerifyErrorEntry) :
  Except Verdict (List VerifyErrorEntry)
  :=
  match folder.entry path with
  | .missing => .ok [differs "OBJECT_MISSING" path expected none]
  | .unreadable error =>
    .error (internalError path ("failed to read " ++ what ++ " during verification: " ++ error)
      counts)
  | .file bytes => .ok (check bytes)

/-- Compare an object with its entry. -/
def verifyObject (ext : Externals) (folder : Folder) (encryptionEnabled : Bool)
    (counts : CheckedCounts) (obj : Json) :
  Except Verdict (List VerifyErrorEntry)
  :=
  let path := textAt obj "relative_path"
  let expectedStorageHash := textAt obj "storage_hash"
  let expectedEncrypted := flagAt obj "encrypted"
  readEntry folder "object" path expectedStorageHash counts fun bytes =>
    unlessEqual "OBJECT_HASH_MISMATCH" path expectedStorageHash (blake3HexPrefixed ext bytes)
      ++ unlessEqual "OBJECT_ENCRYPTION_MISMATCH" path (toString expectedEncrypted)
          (toString bytes.isEncryptedPayload)
      -- the entry itself has to agree with the encryption of the bundle
      ++ unlessEqual "OBJECT_ENCRYPTION_MISMATCH" path (toString encryptionEnabled)
          (toString expectedEncrypted)

/-- Compare a file of the vector index with its entry. -/
def verifyVector (ext : Externals) (folder : Folder) (counts : CheckedCounts) (idx : Json) :
  Except Verdict (List VerifyErrorEntry)
  :=
  let path := textAt idx "relative_path"
  let expectedHash := textAt idx "hash"
  readEntry folder "index file" path expectedHash counts fun bytes =>
    unlessEqual "OBJECT_HASH_MISMATCH" path expectedHash (blake3HexPrefixed ext bytes)

/-- Check entries one after another. -/
def verifyEach (check : Json → Except Verdict (List VerifyErrorEntry)) :
    List Json → Except Verdict (List VerifyErrorEntry)
  | [] => .ok []
  | entry :: rest => do
    let errors ← check entry
    let others ← verifyEach check rest
    .ok (errors ++ others)

/-- The exit code for the errors found in the files. -/
def exitCodeFor (errors : List VerifyErrorEntry) : Nat :=
  if errors.isEmpty then 0
  else if errors.any
      (fun e => e.code == "DB_HASH_MISMATCH" || e.code == "DB_ENCRYPTION_MISMATCH") then 31
  else if errors.any (fun e => e.code == "OBJECT_MISSING") then 40
  else if errors.any
      (fun e => e.code == "OBJECT_HASH_MISMATCH" || e.code == "OBJECT_ENCRYPTION_MISMATCH") then
    41
  else 60

/-- The errors in the files of a bundle, or the verdict on a file that cannot be read. -/
def fileErrors (ext : Externals) (folder : Folder) (manifest db : Json) :
  Except Verdict (List VerifyErrorEntry)
  := do
  let counts := checkedCounts manifest
  let ofDb := verifyDb ext folder (isEnabled manifest "db_encryption") db
  let ofObjects ← verifyEach
    (verifyObject ext folder (isEnabled manifest "encryption") counts) (objectsOf manifest)
  let ofVectors ← verifyEach (verifyVector ext folder counts) (vectorsOf manifest)
  .ok (ofDb ++ ofObjects ++ ofVectors)

/-- The verdict on the files of a bundle. -/
def filesVerdict (ext : Externals) (folder : Folder) (manifest db : Json) : Verdict :=
  match fileErrors ext folder manifest db with
  | .error verdict => verdict
  | .ok errors => reportFor (exitCodeFor errors) errors (checkedCounts manifest)

/-- Verify a bundle. -/
def verifyFolderBundle (ext : Externals) (validatorFor : ValidatorFor) (folder : Folder)
    (expectedPackagingFormat : String) :
  AppResult Verdict
  :=
  match readManifest folder with
  | .error error => .ok (invalidJson (PathBuf.join folder.path "manifest.json") error)
  | .ok manifest => do
    match ← manifestErrors validatorFor expectedPackagingFormat manifest with
    | [] => do
      let db ← okOrElse (verifyFailed "manifest db field must be object")
        ((manifest.get "db").filter isObject)
      .ok (filesVerdict ext folder manifest db)
    | errors => .ok (reportFor 21 errors noCounts)

/-! ### What a verified bundle has -/

theorem toString_bool_inj {b b' : Bool} :
  toString b = toString b' ↔ b = b'
  := by
  revert b b'
  decide

@[simp] theorem unlessEqual_eq_nil {code path expected actual : String} :
  unlessEqual code path expected actual = [] ↔ actual = expected
  := by
  simp [unlessEqual]

theorem get_of_textAt {j : Json} {key s : String} (h : textAt j key = s) (hs : s ≠ "") :
  j.get key = some (.str s)
  := by
  subst h
  unfold textAt at hs ⊢
  cases hj : j.get key with
  | none => simp [hj] at hs
  | some value => cases value <;> simp_all [asStr]

theorem blake3HexPrefixed_ne_empty {ext : Externals} {bytes : Content} :
  blake3HexPrefixed ext bytes ≠ ""
  := by
  intro h
  have h := congrArg String.toList h
  rw [blake3HexPrefixed, String.toList_append] at h
  cases h

section Verified

variable {ext : Externals} {validatorFor : ValidatorFor} {folder : Folder} {format : String}
  {manifest db : Json}

theorem verifyEach_eq_nil {check : Json → Except Verdict (List VerifyErrorEntry)}
    {entries : List Json} :
  verifyEach check entries = .ok [] ↔ ∀ entry ∈ entries, check entry = .ok []
  := by
  induction entries with
  | nil => simp [verifyEach]
  | cons entry rest ih =>
    rw [List.forall_mem_cons, ← ih, verifyEach]
    cases check entry with
    | error verdict => simp [bind, Except.bind]
    | ok errors =>
      cases verifyEach check rest with
      | error verdict => simp [bind, Except.bind]
      | ok others => simp [bind, Except.bind]

theorem readEntry_eq_nil {what path expected : String} {counts : CheckedCounts}
    {check : Content → List VerifyErrorEntry} :
  readEntry folder what path expected counts check = .ok []
    ↔ ∃ bytes, folder.entry path = .file bytes ∧ check bytes = []
  := by
  unfold readEntry
  cases folder.entry path <;> simp

theorem verifyDb_eq_nil {dbEncryptionEnabled : Bool} :
  verifyDb ext folder dbEncryptionEnabled db = []
    ↔ ∃ bytes, folder.entry (textAt db "relative_path") = .file bytes
        ∧ blake3HexPrefixed ext bytes = textAt db "hash"
        ∧ (16 ≤ ext.byteLen bytes → (!isPlaintextSqliteDb bytes) = dbEncryptionEnabled)
  := by
  simp only [verifyDb]
  cases folder.entry (textAt db "relative_path") with
  | missing => simp
  | unreadable error => simp
  | file bytes =>
    by_cases hlen : 16 ≤ ext.byteLen bytes <;> simp [hlen, toString_bool_inj]

theorem verifyObject_eq_nil {encryptionEnabled : Bool} {counts : CheckedCounts} {obj : Json} :
  verifyObject ext folder encryptionEnabled counts obj = .ok []
    ↔ ∃ bytes, folder.entry (textAt obj "relative_path") = .file bytes
        ∧ blake3HexPrefixed ext bytes = textAt obj "storage_hash"
        ∧ bytes.isEncryptedPayload = flagAt obj "encrypted"
        ∧ flagAt obj "encrypted" = encryptionEnabled
  := by
  simp only [verifyObject, readEntry_eq_nil, List.append_eq_nil_iff, unlessEqual_eq_nil,
    toString_bool_inj, and_assoc]

theorem verifyVector_eq_nil {counts : CheckedCounts} {idx : Json} :
  verifyVector ext folder counts idx = .ok []
    ↔ ∃ bytes, folder.entry (textAt idx "relative_path") = .file bytes
        ∧ blake3HexPrefixed ext bytes = textAt idx "hash"
  := by
  simp only [verifyVector, readEntry_eq_nil, unlessEqual_eq_nil]

theorem fileErrors_eq_nil :
  fileErrors ext folder manifest db = .ok []
    ↔ verifyDb ext folder (isEnabled manifest "db_encryption") db = []
      ∧ (∀ obj ∈ objectsOf manifest, verifyObject ext folder (isEnabled manifest "encryption")
          (checkedCounts manifest) obj = .ok [])
      ∧ ∀ idx ∈ vectorsOf manifest, verifyVector ext folder (checkedCounts manifest) idx = .ok []
  := by
  rw [← verifyEach_eq_nil, ← verifyEach_eq_nil]
  simp only [fileErrors]
  cases verifyEach (verifyObject ext folder (isEnabled manifest "encryption")
      (checkedCounts manifest)) (objectsOf manifest) with
  | error verdict => simp [bind, Except.bind]
  | ok ofObjects =>
    cases verifyEach (verifyVector ext folder (checkedCounts manifest)) (vectorsOf manifest) with
    | error verdict => simp [bind, Except.bind]
    | ok ofVectors => simp [bind, Except.bind]

theorem exitCodeFor_eq_zero {errors : List VerifyErrorEntry} :
  exitCodeFor errors = 0 ↔ errors = []
  := by
  constructor
  · intro h
    unfold exitCodeFor at h
    split at h
    · next hempty => simpa using hempty
    · split_ifs at h
  · rintro rfl
    rfl

theorem exists_of_verifyEach_error {check : Json → Except Verdict (List VerifyErrorEntry)}
    {entries : List Json} {verdict : Verdict} (h : verifyEach check entries = .error verdict) :
  ∃ entry ∈ entries, check entry = .error verdict
  := by
  induction entries with
  | nil => cases h
  | cons entry rest ih =>
    rw [verifyEach] at h
    cases hcheck : check entry with
    | error verdict' =>
      rw [hcheck] at h
      cases h
      exact ⟨entry, List.mem_cons_self .., hcheck⟩
    | ok errors =>
      cases hrest : verifyEach check rest with
      | error verdict' =>
        rw [hcheck, hrest] at h
        cases h
        obtain ⟨entry', hmem, herror⟩ := ih hrest
        exact ⟨entry', List.mem_cons_of_mem _ hmem, herror⟩
      | ok others =>
        rw [hcheck, hrest] at h
        cases h

theorem readEntry_eq_error {what path expected : String} {counts : CheckedCounts}
    {check : Content → List VerifyErrorEntry} {verdict : Verdict}
    (h : readEntry folder what path expected counts check = .error verdict) :
  ∃ error message, folder.entry path = .unreadable error
    ∧ verdict = internalError path message counts
  := by
  unfold readEntry at h
  split at h
  · cases h
  · next error hentry =>
    cases h
    exact ⟨error, _, hentry, rfl⟩
  · cases h

/-- The verification of the files breaks off at an entry whose file cannot be read. -/
theorem fileErrors_eq_error {verdict : Verdict}
    (h : fileErrors ext folder manifest db = .error verdict) :
  ∃ entry ∈ objectsOf manifest ++ vectorsOf manifest, ∃ error message,
    folder.entry (textAt entry "relative_path") = .unreadable error
      ∧ verdict = internalError (textAt entry "relative_path") message (checkedCounts manifest)
  := by
  simp only [fileErrors] at h
  cases hobjects : verifyEach (verifyObject ext folder (isEnabled manifest "encryption")
      (checkedCounts manifest)) (objectsOf manifest) with
  | error verdict' =>
    rw [hobjects] at h
    cases h
    obtain ⟨obj, hobj, herror⟩ := exists_of_verifyEach_error hobjects
    exact ⟨obj, List.mem_append_left _ hobj, readEntry_eq_error herror⟩
  | ok ofObjects =>
    cases hvectors : verifyEach (verifyVector ext folder (checkedCounts manifest))
        (vectorsOf manifest) with
    | error verdict' =>
      rw [hobjects, hvectors] at h
      cases h
      obtain ⟨idx, hidx, herror⟩ := exists_of_verifyEach_error hvectors
      exact ⟨idx, List.mem_append_right _ hidx, readEntry_eq_error herror⟩
    | ok ofVectors =>
      rw [hobjects, hvectors] at h
      cases h

/-- A file that cannot be read is no success. -/
theorem filesVerdict_eq_zero :
  (filesVerdict ext folder manifest db).1 = 0 ↔ fileErrors ext folder manifest db = .ok []
  := by
  rw [filesVerdict]
  cases hfiles : fileErrors ext folder manifest db with
  | error verdict =>
    obtain ⟨entry, -, error, message, -, rfl⟩ := fileErrors_eq_error hfiles
    simp [internalError, reportFor]
  | ok errors => simp [reportFor, exitCodeFor_eq_zero]

/-- A verification without errors. -/
structure Verified (ext : Externals) (validatorFor : ValidatorFor) (folder : Folder)
    (format : String) (manifest db : Json) : Prop where
  read : readManifest folder = .ok manifest
  accepted : manifestErrors validatorFor format manifest = .ok []
  dbEntry : (manifest.get "db").filter isObject = some db
  files : fileErrors ext folder manifest db = .ok []

/-- The exit code is zero exactly when there are no errors. -/
theorem verifyFolderBundle_zero_iff :
  (∃ report, verifyFolderBundle ext validatorFor folder format = .ok (0, report))
    ↔ ∃ manifest db, Verified ext validatorFor folder format manifest db
  := by
  constructor
  · rintro ⟨report, h⟩
    unfold verifyFolderBundle at h
    split at h
    · simp [invalidJson, reportFor] at h
    · next manifest hread =>
      obtain ⟨errors, herrors, h⟩ := AppResult.bind_eq_ok.mp h
      cases errors with
      | cons error errors => simp [reportFor] at h
      | nil =>
        obtain ⟨db, hdb, h⟩ := AppResult.bind_eq_ok.mp h
        rw [okOrElse_eq_ok] at hdb
        have hzero := congrArg Prod.fst (Except.ok.inj h)
        exact ⟨manifest, db, hread, herrors, hdb, filesVerdict_eq_zero.mp hzero⟩
  · rintro ⟨manifest, db, h⟩
    use (reportFor 0 [] (checkedCounts manifest)).2
    rw [verifyFolderBundle, h.read]
    simp only [h.accepted, h.dbEntry, AppResult.ok_bind, okOrElse_some, filesVerdict, h.files]
    rfl

/-! ### Objects that pass -/

/-- When the verification of a bundle finds nothing, every object of the manifest names a file of
the bundle, whose hash is the storage hash of the entry. The file looks encrypted exactly if the
manifest declares encryption. -/
theorem verifyFolderBundle_objects {report : VerifyReportV1}
    (h : verifyFolderBundle ext validatorFor folder format = .ok (0, report))
    (hmanifest : readManifest folder = .ok manifest) :
  ∀ obj ∈ objectsOf manifest, ∃ path bytes, obj.get "relative_path" = some (.str path)
    ∧ folder.entry path = .file bytes
    ∧ obj.get "storage_hash" = some (.str (blake3HexPrefixed ext bytes))
    ∧ bytes.isEncryptedPayload = isEnabled manifest "encryption"
  := by
  obtain ⟨manifest', db, hverified⟩ := verifyFolderBundle_zero_iff.mp ⟨report, h⟩
  obtain rfl : manifest' = manifest := Except.ok.inj (hverified.read.symm.trans hmanifest)
  intro obj hobj
  obtain ⟨bytes, hfile, hhash, hpayload, henabled⟩ :=
    verifyObject_eq_nil.mp ((fileErrors_eq_nil.mp hverified.files).2.1 obj hobj)
  have hpath : textAt obj "relative_path" ≠ "" := by
    intro hempty
    rw [hempty] at hfile
    exact folder.entry_empty bytes hfile
  use textAt obj "relative_path", bytes, get_of_textAt rfl hpath, hfile
  use get_of_textAt hhash.symm blake3HexPrefixed_ne_empty
  rw [hpayload, henabled]

end Verified

/-! ### An entry that describes another object -/

namespace Sample

open KnowledgeCore.Sample (ext objectHash)

/-- The manifest of a bundle that is not encrypted. -/
def manifestWith (dbHash : String) (objects : List Json) : Json :=
  let kdf : Json := .obj [("algorithm", .str "argon2id"), ("memory_kib", .int 65536),
    ("iterations", .int 3), ("parallelism", .int 1), ("salt_id", .str "vault-kdf-salt-v1")]
  .obj [("manifest_version", .int 1),
    ("vault_id", .str "11111111-1111-4111-8111-111111111111"),
    ("schema_versions", .obj []),
    ("encryption", .obj [("enabled", .bool false), ("mode", .str ""), ("kdf", kdf)]),
    ("db_encryption", .obj [("enabled", .bool false), ("mode", .str ""),
      ("kdf", .obj [("algorithm", .str "")])]),
    ("recovery_escrow", .obj [("enabled", .bool false), ("provider", .str "none"),
      ("updated_at_ms", .null), ("descriptor", .null)]),
    ("packaging", .obj [("format", .str "folder"),
      ("zip_policy", .obj [("compression", .str "stored"),
        ("mtime", .str "1980-01-01T00:00:00Z"), ("file_mode", .str "0644")])]),
    ("chunking_config_hash", .str dbHash),
    ("db", .obj [("relative_path", .str "db/knowledge.sqlite"), ("hash", .str dbHash)]),
    ("objects", .arr objects)]

/-- An entry with the storage hash of a note, and with the hash and length of something else. -/
def forgedEntry : Json :=
  .obj [("relative_path", .str "store/objects/3f/note"), ("hash", .str objectHash),
    ("storage_hash", .str (blake3HexPrefixed ext (.text "note"))), ("encrypted", .bool false),
    ("bytes", .int 1000)]

def forgedManifest : Json := manifestWith (blake3HexPrefixed ext (.text "db")) [forgedEntry]

def forgedFolder : Folder where
  path := "/bundle"
  entry rel :=
    if rel = "manifest.json" then .file (.json forgedManifest 0)
    else if rel = "db/knowledge.sqlite" then .file (.text "db")
    else if rel = "store/objects/3f/note" then .file (.text "note")
    else .missing
  entry_empty _ := FileEntry.noConfusion

theorem exists_report_forgedFolder :
  ∃ report, verifyFolderBundle ext validatorFor forgedFolder "folder" = .ok (0, report)
  := by
  obtain ⟨⟨code, report⟩, hverdict, hcode⟩ := exists_of_any
    (x := verifyFolderBundle ext validatorFor forgedFolder "folder")
    (p := fun verdict => verdict.1 == 0) (by decide +kernel)
  obtain rfl : code = 0 := beq_iff_eq.mp hcode
  use report

end Sample

theorem verifyFolderBundle_objects_note :
  ∃ path bytes, Sample.forgedEntry.get "relative_path" = some (.str path)
    ∧ Sample.forgedFolder.entry path = .file bytes
    ∧ Sample.forgedEntry.get "storage_hash"
        = some (.str (blake3HexPrefixed KnowledgeCore.Sample.ext bytes))
    ∧ bytes.isEncryptedPayload = false
  := by
  obtain ⟨report, h⟩ := Sample.exists_report_forgedFolder
  exact verifyFolderBundle_objects h rfl Sample.forgedEntry (List.mem_singleton_self _)

/-- A bundle passes whose object has neither the hash nor the length of its entry. -/
theorem forgedEntry_passes :
  Validates Sample.validatorFor
    ∧ (∃ report, verifyFolderBundle KnowledgeCore.Sample.ext Sample.validatorFor
        Sample.forgedFolder "folder" = .ok (0, report))
    ∧ readManifest Sample.forgedFolder = .ok Sample.forgedManifest
    ∧ isEnabled Sample.forgedManifest "encryption" = false
    ∧ Sample.forgedEntry ∈ objectsOf Sample.forgedManifest
    ∧ ∃ bytes, Sample.forgedFolder.entry (textAt Sample.forgedEntry "relative_path")
        = .file bytes
      ∧ Sample.forgedEntry.get "hash"
        ≠ some (.str (blake3HexPrefixed KnowledgeCore.Sample.ext bytes))
      ∧ Sample.forgedEntry.get "bytes"
        ≠ some (.int (KnowledgeCore.Sample.ext.byteLen bytes))
  := by
  use Sample.validates, Sample.exists_report_forgedFolder, rfl, rfl, List.mem_singleton_self _
  use .text "note", rfl
  constructor
  · intro h
    have h : KnowledgeCore.Sample.objectHash
        = blake3HexPrefixed KnowledgeCore.Sample.ext (.text "note") :=
      Json.str.inj (Option.some.inj h)
    revert h
    decide +kernel
  · intro h
    have h := Json.int.inj (Option.some.inj h)
    revert h
    decide

end Verifier

end KnowledgeCore
