import KnowledgeCore.Vault

/-!
# Export bundles

An export copies the database, the objects and the vector index of a vault into a bundle, and
lists them with their hashes in `manifest.json`. What synchronisation pushes is a bundle.
-/

namespace KnowledgeCore

namespace Export

def exportFailed (message : String) (details : Json := .obj []) : AppError where
  code := "KC_EXPORT_FAILED"
  category := "export"
  message := message
  details := details

structure ExportOptions where
  includeVectors : Bool
  asZip : Bool

/-! ### Paths -/

/-- The components of a path, given the characters before the first separator so far. -/
def splitPath (component : List Char) : List Char → List (List Char)
  | [] => [component.reverse]
  | c :: rest =>
    if c = '/' then component.reverse :: splitPath [] rest else splitPath (c :: component) rest

/-- The components of a relative path. -/
def relPath (s : String) : RelPath :=
  ((splitPath [] s.toList).filter (fun part => part ≠ [] ∧ part ≠ ['.'])).map String.ofList

/-- A relative path as a string. -/
def renderPath (p : RelPath) : String :=
  "/".intercalate p

/-- A relative path as a string in which every backslash is a slash. -/
def relForPath (p : RelPath) : String :=
  String.ofList ((renderPath p).toList.map (fun c => if c = '\\' then '/' else c))

def manifestPath : RelPath := ["manifest.json"]
def objectsDir : RelPath := ["store", "objects"]
def vectorsDir : RelPath := ["index", "vectors"]

/-! ### Recovery escrow -/

structure RecoveryEscrowDescriptorV2 where
  provider : String
  providerRef : String
  keyId : String
  wrappedAtMs : Int64

namespace RecoveryEscrowDescriptorV2

open Json in
def ofJson : Reader RecoveryEscrowDescriptorV2 := fun j => do
  expectObject j
  let provider ← field j "provider" readString
  let providerRef ← field j "provider_ref" readString
  let keyId ← field j "key_id" readString
  let wrappedAtMs ← field j "wrapped_at_ms" readI64
  .ok { provider, providerRef, keyId, wrappedAtMs }

def toJson (d : RecoveryEscrowDescriptorV2) : Json :=
  .obj [("provider", .str d.provider), ("provider_ref", .str d.providerRef),
    ("key_id", .str d.keyId), ("wrapped_at_ms", .int d.wrappedAtMs.toInt)]

end RecoveryEscrowDescriptorV2

def ESCROW_PROVIDER_PRIORITY : List String :=
  ["aws", "gcp", "azure", "hsm", "local", "private_kms"]

/-- The place of a provider among the supported ones, nine for any other. -/
def providerPriority (providerId : String) : Nat :=
  match ESCROW_PROVIDER_PRIORITY.idxOf? providerId with
  | some idx => idx
  | none => 9

/-- Whether a provider comes before another, or is the same. -/
def providerLe (a b : String) : Bool :=
  providerPriority a < providerPriority b
    || (providerPriority a = providerPriority b && a ≤ b)

/-- The order of the descriptors. There is one for each provider, so the provider decides. -/
def normalizeEscrowDescriptors (descs : List RecoveryEscrowDescriptorV2) :
  List RecoveryEscrowDescriptorV2
  := descs.insertionSort (fun a b => providerLe a.provider b.provider)

/-- The descriptor of a configuration row. A row that is not enabled, or whose descriptor has
not been written yet, has none. -/
def escrowDescriptor (providerId : String) (row : RecoveryEscrowConfigRow) :
  AppResult (Option RecoveryEscrowDescriptorV2)
  :=
  if !row.enabled then
    .ok none
  else do
    let value ← okOrElse
      (exportFailed "failed parsing recovery escrow descriptor json"
        (.obj [("provider", .str providerId)]))
      row.descriptorJson
    let hasDescriptorShape := ["provider", "provider_ref", "key_id", "wrapped_at_ms"].all
      (fun key => (value.get key).isSome)
    if !hasDescriptorShape then
      .ok none
    else do
      let descriptor ← mapErr
        (fun error => exportFailed "failed decoding recovery escrow descriptor json"
          (.obj [("error", .str error), ("provider", .str providerId)]))
        (RecoveryEscrowDescriptorV2.ofJson value)
      if descriptor.provider ≠ providerId then
        .error (exportFailed "recovery escrow descriptor provider does not match provider id"
          (.obj [("provider_id", .str providerId),
            ("descriptor_provider", .str descriptor.provider)]))
      else
        .ok (some descriptor)

/-- The descriptors of the rows that have one, each with the time of its row. -/
def escrowDescriptors : List (String × RecoveryEscrowConfigRow) →
    AppResult (List (RecoveryEscrowDescriptorV2 × Int64))
  | [] => .ok []
  | (providerId, row) :: rest => do
    let descriptor ← escrowDescriptor providerId row
    let others ← escrowDescriptors rest
    .ok ((descriptor.map (fun d => (d, row.updatedAtMs))).toList ++ others)

/-- The latest of the times. -/
def latest : List Int64 → Option Int64
  | [] => none
  | t :: rest =>
    match latest rest with
    | none => some t
    | some t' => some (if t ≤ t' then t' else t)

/-- The recovery escrow block of a manifest. -/
def recoveryEscrowExportBlock (db : Db) : AppResult Json := do
  let found ← escrowDescriptors db.recoveryEscrowConfigs.toList
  let descriptors := normalizeEscrowDescriptors (found.map Prod.fst)
  let providers := (found.map (fun d => d.1.provider)).insertionSort
    (fun a b => providerLe a b)
  match descriptors with
  | [] =>
    .ok (.obj [("enabled", .bool false), ("provider", .str "none"), ("providers", .arr []),
      ("updated_at_ms", .null), ("descriptor", .null), ("escrow_descriptors", .arr [])])
  | first :: _ =>
    let primary :=
      match providers with
      | [provider] => provider
      | _ => "multi"
    .ok (.obj [("enabled", .bool true), ("provider", .str primary),
      ("providers", .arr (providers.map .str)),
      ("updated_at_ms", ((latest (found.map Prod.snd)).map (fun t => Json.int t.toInt)).getD
        .null),
      ("descriptor", first.toJson),
      ("escrow_descriptors",
        .arr (descriptors.map RecoveryEscrowDescriptorV2.toJson))])

/-! ### Objects and vectors -/

/-- The first two bytes of a text, if they are whole characters. -/
def firstTwoBytes : List Char → Option String
  | c :: d :: _ =>
    if c.utf8Size = 2 then some (String.ofList [c])
    else if c.utf8Size = 1 ∧ d.utf8Size = 1 then some (String.ofList [c, d])
    else none
  | [c] => if c.utf8Size = 2 then some (String.ofList [c]) else none
  | [] => none

/-- The directory an object is stored in. A hash without two characters after its prefix stops
the program there. -/
def objectPrefix (hash : String) : AppResult String :=
  if "blake3:".toList.isPrefixOf hash.toList = false then
    .error (exportFailed "invalid object hash" (.obj [("hash", .str hash)]))
  else
    okOrElse (exportFailed "byte index 2 is out of bounds" (.obj [("hash", .str hash)]))
      (firstTwoBytes (hash.toList.drop 7))

/-- The path of an object below a vault or a bundle, as a string. -/
def objectRel (dir hash : String) : String :=
  "store/objects/" ++ dir ++ "/" ++ hash

/-- An object of a bundle: its path, its stored bytes, and its entry in the manifest. -/
structure ExportedObject where
  path : RelPath
  stored : Content
  entry : Json

def exportObject (ext : Externals) (vault : Dir Content) (hash : String) (row : ObjectRow) :
  AppResult ExportedObject
  := do
  let dir ← objectPrefix hash
  let rel := objectRel dir hash
  let path := relPath rel
  let stored ← okOrElse
    (exportFailed "failed reading source object file" (.obj [("path", .str rel)]))
    (vault.get path)
  .ok {
    path
    stored
    entry := .obj [("relative_path", .str rel), ("hash", .str hash),
      ("storage_hash", .str (blake3HexPrefixed ext stored)),
      ("encrypted", .bool stored.isEncryptedPayload), ("bytes", .int row.bytes.toInt)] }

def exportObjects (ext : Externals) (vault : Dir Content) :
    List (String × ObjectRow) → AppResult (List ExportedObject)
  | [] => .ok []
  | (hash, row) :: rest => do
    let object ← exportObject ext vault hash row
    let objects ← exportObjects ext vault rest
    .ok (object :: objects)

/-- The entry of a vector index file in the manifest. The names in the index have no backslash. -/
def vectorEntry (ext : Externals) (file : RelPath × Content) : String × Json :=
  (renderPath file.1,
    .obj [("relative_path", .str (renderPath file.1)),
      ("hash", .str (blake3HexPrefixed ext file.2)),
      ("bytes", .int (ext.byteLen file.2))])

/-- The vector index files an export takes along. -/
def exportedVectors (vault : Dir Content) (opts : ExportOptions) : List (RelPath × Content) :=
  if opts.includeVectors then vault.listFiles vectorsDir else []

/-! ### The manifest -/

/-- The default chunking configuration, as JSON. -/
def defaultChunkingConfigV1 : Json :=
  .obj [("v", .int 1),
    ("md_html", .obj [("max_chars", .int 1200), ("min_chars", .int 350)]),
    ("pdf", .obj [("window_chars", .int 1400), ("overlap_chars", .int 200),
      ("respect_markers", .bool true)])]

/-- The block of a manifest that says how the objects are encrypted. -/
def encryptionBlock (vault : VaultJsonV3) : Json :=
  .obj [("enabled", .bool vault.encryption.enabled), ("mode", .str vault.encryption.mode),
    ("key_reference", .ofOption vault.encryption.keyReference),
    ("kdf", .obj [("algorithm", .str vault.encryption.kdf.algorithm),
      ("memory_kib", .int vault.encryption.kdf.memoryKib),
      ("iterations", .int vault.encryption.kdf.iterations),
      ("parallelism", .int vault.encryption.kdf.parallelism),
      ("salt_id", .str vault.encryption.kdf.saltId)])]

/-- The block of a manifest that says how the database is encrypted. -/
def dbEncryptionBlock (vault : VaultJsonV3) : Json :=
  .obj [("enabled", .bool vault.dbEncryption.enabled), ("mode", .str vault.dbEncryption.mode),
    ("key_reference", .ofOption vault.dbEncryption.keyReference),
    ("kdf", .obj [("algorithm", .str vault.dbEncryption.kdfAlgorithm)])]

/-- The block of a manifest that says how the bundle is packed. -/
def packagingBlock (opts : ExportOptions) : Json :=
  .obj [("format", .str (if opts.asZip then "zip" else "folder")),
    ("zip_policy", .obj [("compression", .str "stored"),
      ("mtime", .str "1980-01-01T00:00:00Z"), ("file_mode", .str "0644")])]

def buildManifest (ext : Externals) (vault : VaultJsonV3) (opts : ExportOptions)
    (dbHash : String) (recoveryEscrow : Json) (objects vectors : List Json) :
  Json
  :=
  .obj [("manifest_version", .int 1),
    ("vault_id", .str vault.vaultId),
    ("schema_versions", .obj [("vault", .int 3), ("locator", .int 1), ("app_error", .int 1),
      ("rpc", .int 1)]),
    ("encryption", encryptionBlock vault),
    ("db_encryption", dbEncryptionBlock vault),
    ("recovery_escrow", recoveryEscrow),
    ("toolchain_registry", .obj [("pdfium", .str vault.toolchain.pdfium),
      ("tesseract", .str vault.toolchain.tesseract)]),
    ("chunking_config_id", .str vault.defaults.chunkingConfigId),
    ("chunking_config_hash", .str (blake3HexPrefixed ext (.json defaultChunkingConfigV1 0))),
    ("embedding", .obj [("model_id", .str vault.defaults.embeddingModelId)]),
    ("packaging", packagingBlock opts),
    ("db", .obj [("relative_path", .str vault.db.relativePath), ("hash", .str dbHash)]),
    ("objects", .arr objects),
    ("indexes", .obj [("vectors", .arr vectors)])]

/-- What an export reads from a vault. -/
structure ExportSource where
  vault : VaultJsonV3
  dbSrc : Content
  recoveryEscrow : Json
  objects : List ExportedObject
  vectors : List (RelPath × Content)

/-- Read from a vault what goes into a bundle: its configuration, the database file as it is,
the objects the database lists, and the vector index. -/
def readExportSource (ext : Externals) (host : Host) (vaultDir : Dir Content)
    (opts : ExportOptions) :
  AppResult ExportSource
  := do
  let vault ← Vault.vaultOpen host vaultDir
  let dbSrc ← okOrElse
    (exportFailed "failed to copy sqlite db" (.obj [("from", .str vault.db.relativePath)]))
    (vaultDir.get (relPath vault.db.relativePath))
  let key ← Vault.dbEncryptionKey host vaultDir
  let file ← Vault.openDbFile ext key (some dbSrc)
  let objects ← exportObjects ext vaultDir file.db.objects.toList
  let recoveryEscrow ← recoveryEscrowExportBlock file.db
  .ok { vault, dbSrc, recoveryEscrow, objects, vectors := exportedVectors vaultDir opts }

/-- The manifest of a bundle. -/
def manifestOf (ext : Externals) (opts : ExportOptions) (source : ExportSource) : Json :=
  buildManifest ext source.vault opts (blake3HexPrefixed ext source.dbSrc)
    source.recoveryEscrow (source.objects.map ExportedObject.entry)
    (((source.vectors.map (vectorEntry ext)).insertionSort (fun a b => a.1 ≤ b.1)).map Prod.snd)

/-- The files of a bundle besides its manifest. -/
def bundleFiles (source : ExportSource) : Dir Content :=
  let withDb := Dir.empty.write (relPath source.vault.db.relativePath) source.dbSrc
  let withObjects := source.objects.foldl (fun d object => d.write object.path object.stored)
    withDb
  source.vectors.foldl (fun d file => d.write file.1 file.2) withObjects

/-- Export a vault into a bundle. -/
def exportBundle (ext : Externals) (host : Host) (vaultDir : Dir Content)
    (opts : ExportOptions) :
  AppResult (Dir Content)
  := do
  let source ← readExportSource ext host vaultDir opts
  let manifest ← Content.ofCanonical (manifestOf ext opts source)
  .ok ((bundleFiles source).write manifestPath manifest)

/-- Pack a bundle into an archive, its files in the order of their paths. -/
def createDeterministicZip (bundle : Dir Content) : Content :=
  .zip ((bundle.listFiles []).map (fun file => (relForPath file.1, file.2)))

/-! ### What an export writes -/

theorem exportBundle_eq_ok {ext : Externals} {host : Host} {vaultDir bundle : Dir Content}
    {opts : ExportOptions} (h : exportBundle ext host vaultDir opts = .ok bundle) :
  ∃ source, readExportSource ext host vaultDir opts = .ok source
    ∧ bundle = (bundleFiles source).write manifestPath (.json (manifestOf ext opts source) 0)
  := by
  simp only [exportBundle, AppResult.bind_eq_ok] at h
  obtain ⟨source, hs, manifest, hm, h⟩ := h
  cases h
  use source, hs
  rw [Content.ofCanonical_eq_ok hm]

/-- Two exports of one vault that differ in the packaging read the same from it. -/
theorem readExportSource_asZip (ext : Externals) (host : Host) (vaultDir : Dir Content)
    (includeVectors asZip asZip' : Bool) :
  readExportSource ext host vaultDir { includeVectors, asZip }
    = readExportSource ext host vaultDir { includeVectors, asZip := asZip' }
  := rfl

theorem get_foldl_objects {objects : List ExportedObject} {d : Dir Content} {p : RelPath}
    (h : ∀ o ∈ objects, o.path ≠ p) :
  (objects.foldl (fun d o => d.write o.path o.stored) d).get p = d.get p
  := by
  induction objects generalizing d with
  | nil => rfl
  | cons o objects ih =>
    rw [List.foldl_cons, ih (fun o ho => h o (by simp [ho])), Dir.get_write,
      if_neg (h o (by simp))]

end Export

end KnowledgeCore
