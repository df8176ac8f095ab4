import KnowledgeCore.Objects.RoundTrip
import KnowledgeCore.Objects.Ingest

/-!
# Migrating to encrypted objects

Once encryption is enabled, the objects that are there are migrated: the plain ones are sealed
in place, one after the other, and the ones that look sealed have to open under the key of the
passphrase.
-/

namespace KnowledgeCore

/-- The encryption context of a vault for a passphrase, if encryption is enabled. -/
def VaultJsonV3.objectStoreEncryptionContext (ext : Externals) (vault : VaultJsonV3)
    (passphrase : Option String) : AppResult (Option ObjectStoreEncryptionContext)
  :=
  if vault.encryption.enabled = false then
    .ok none
  else if vault.encryption.mode ≠ "object_store_xchacha20poly1305" then
    .error (encryptionError "KC_ENCRYPTION_UNSUPPORTED" "unsupported vault encryption mode"
      [("mode", .str vault.encryption.mode),
        ("supported", .arr [.str "object_store_xchacha20poly1305"])])
  else if vault.encryption.kdf.algorithm ≠ "argon2id" then
    .error (encryptionError "KC_ENCRYPTION_UNSUPPORTED" "unsupported vault kdf algorithm"
      [("algorithm", .str vault.encryption.kdf.algorithm),
        ("supported", .arr [.str "argon2id"])])
  else do
    let passphrase ← okOrElse
      (encryptionError "KC_ENCRYPTION_REQUIRED"
        "vault requires passphrase for encrypted object access" [])
      passphrase
    let kdf := vault.encryption.kdf
    let key ← deriveObjectStoreKey ext passphrase kdf.saltId kdf.memoryKib kdf.iterations
      kdf.parallelism
    .ok (some {
      key
      keyReference := vault.encryption.keyReference.getD ("vault:" ++ vault.vaultId) })

namespace Migration

open Ingest (openDbOf opened closed objectsDir)

/-- What goes wrong during a migration: whether the hashes cannot be read from the database,
for which objects the file cannot be read the first time or the second, its directory cannot
be made, or the file stops being written, and what goes wrong after the last object. -/
structure Trouble where
  hashes : Bool
  reads : String → Bool
  rereads : String → Bool
  dirs : String → Bool
  stops : String → Option Nat
  event : Bool
  status : Bool
  statusReads : String → Bool

/-- The files as a read finds them, none at all when it fails. -/
def seen (fails : Bool) (files : Files) : Files :=
  if fails then ∅ else files

/-- Write the file of an object anew, from the plain bytes it stands for. -/
def rewritePlaintextForHash (ext : Externals) (store : ObjectStore) (objectHash : String)
    (plaintext : List UInt8) (dirFails : Bool) (stop : Option Nat) (files : Files) :
  AppResult Unit × Files
  :=
  let expected := blake3HexPrefixed ext (.raw plaintext)
  if expected ≠ objectHash then
    (.error (objectStoreError "KC_HASH_INVALID_FORMAT"
      "plaintext bytes do not match object hash"
      [("expected", .str objectHash), ("actual", .str expected)]), files)
  else
    match store.filePathForHash objectHash with
    | .error e => (.error e, files)
    | .ok path =>
      if dirFails then
        (.error (objectStoreError "KC_INGEST_READ_FAILED"
          "failed to create object hash prefix directory"
          [("error", .str "Input/output error"), ("path", .str path)]), files)
      else
        match store.maybeEncryptBytes ext objectHash plaintext with
        | .error e => (.error e, files)
        | .ok stored =>
          let after := files.insert path (written stored stop)
          match stop with
          | none => (.ok (), after)
          | some _ =>
            (.error (objectStoreError "KC_INGEST_READ_FAILED"
              "failed writing rewritten object bytes"
              [("error", .str "No space left on device"), ("path", .str path)]), after)

/-- Migrate one object. The result says whether it was sealed, or was sealed already. -/
def migrateObject (ext : Externals) (plainStore encryptedStore : ObjectStore)
    (trouble : Trouble) (objectHash : String) (files : Files) : AppResult Bool × Files
  :=
  match plainStore.rawBytes objectHash (seen (trouble.reads objectHash) files) with
  | .error e => (.error e, files)
  | .ok raw =>
    if isEncryptedPayload raw then
      match encryptedStore.getBytes ext objectHash
          (seen (trouble.rereads objectHash) files) with
      | .error e => (.error e, files)
      | .ok _ => (.ok false, files)
    else
      match plainStore.getBytes ext objectHash (seen (trouble.rereads objectHash) files) with
      | .error e => (.error e, files)
      | .ok plaintext =>
        match rewritePlaintextForHash ext encryptedStore objectHash plaintext
            (trouble.dirs objectHash) (trouble.stops objectHash) files with
        | (.error e, after) => (.error e, after)
        | (.ok (), after) => (.ok true, after)

/-- Migrate objects one after the other, and count the ones that were sealed and the ones that
were sealed already. -/
def migrateObjects (ext : Externals) (plainStore encryptedStore : ObjectStore)
    (trouble : Trouble) : List String → Int64 × Int64 → Files → AppResult (Int64 × Int64) × Files
  | [], counts, files => (.ok counts, files)
  | hash :: rest, counts, files =>
    match migrateObject ext plainStore encryptedStore trouble hash files with
    | (.error e, after) => (.error e, after)
    | (.ok sealed, after) =>
      let counts := if sealed then (counts.1 + 1, counts.2) else (counts.1, counts.2 + 1)
      migrateObjects ext plainStore encryptedStore trouble rest counts after

structure VaultEncryptionStatus where
  enabled : Bool
  mode : String
  keyReference : Option String
  kdfAlgorithm : String
  objectsTotal : Int64
  objectsEncrypted : Int64

structure VaultEncryptionMigrateResult where
  status : VaultEncryptionStatus
  migratedObjects : Int64
  alreadyEncryptedObjects : Int64

/-- Count the objects that look sealed. -/
def countEncrypted (store : ObjectStore) (trouble : Trouble) (files : Files) :
    List String → AppResult Int64
  | [] => .ok 0
  | hash :: rest => do
    let raw ← store.rawBytes hash (seen (trouble.statusReads hash) files)
    let encrypted ← countEncrypted store trouble files rest
    .ok (if isEncryptedPayload raw then encrypted + 1 else encrypted)

/-- The hashes of the objects that a database lists. -/
def loadObjectHashes (fails : Bool) (file : SqliteFile) : AppResult (List String) :=
  if fails then
    .error (encryptionError "KC_DB_INTEGRITY_FAILED" "failed querying object hashes"
      [("error", .str "disk I/O error")])
  else
    .ok file.db.objects.keys

/-- How far the objects of a vault are encrypted. -/
def encryptionStatusForVault (ext : Externals) (host : Host) (trouble : Trouble)
    (config : VaultJsonV3) (m : Machine) : AppResult VaultEncryptionStatus
  := do
  let file ← openDbOf ext host m.vault config
  let hashes ← loadObjectHashes trouble.status file
  let encrypted ← countEncrypted (ObjectStore.new (objectsDir host.vaultPath)) trouble m.files
    hashes
  .ok {
    enabled := config.encryption.enabled
    mode := config.encryption.mode
    keyReference := config.encryption.keyReference
    kdfAlgorithm := config.encryption.kdf.algorithm
    objectsTotal := Int64.ofNat hashes.length
    objectsEncrypted := encrypted }

/-- What a migration needs of the vault: its configuration, which has to enable encryption, the
key of the passphrase, and the database. -/
def openForMigration (ext : Externals) (host : Host) (passphrase : String)
    (vault : Dir Content) :
  AppResult (VaultJsonV3 × ObjectStoreEncryptionContext × SqliteFile)
  := do
  let config ← Vault.vaultOpen host vault
  if config.encryption.enabled = false then
    .error (encryptionError "KC_ENCRYPTION_REQUIRED"
      "vault encryption must be enabled before migrate"
      [("vault_path", .str host.vaultPath)])
  else do
    let context ← config.objectStoreEncryptionContext ext (some passphrase)
    let enc ← okOrElse
      (encryptionError "KC_ENCRYPTION_REQUIRED" "encryption context unavailable" [])
      context
    let file ← openDbOf ext host vault config
    .ok (config, enc, file)

def vaultEncryptionMigrateService (ext : Externals) (host : Host) (passphrase : String)
    (trouble : Trouble) (m : Machine) : AppResult VaultEncryptionMigrateResult × Machine
  :=
  match openForMigration ext host passphrase m.vault with
  | .error e => (.error e, m)
  | .ok (config, enc, file) =>
    match loadObjectHashes trouble.hashes file with
    | .error e => (.error e, opened m config file)
    | .ok hashes =>
      let plainStore := ObjectStore.new (objectsDir host.vaultPath)
      let encryptedStore := ObjectStore.withEncryption (objectsDir host.vaultPath) enc
      match migrateObjects ext plainStore encryptedStore trouble hashes (0, 0) m.files with
      | (.error e, files) => (.error e, { opened m config file with files })
      | (.ok (migrated, alreadyEncrypted), files) =>
        if trouble.event then
          (.error (encryptionError "KC_ENCRYPTION_MIGRATION_FAILED"
            "failed appending migration event"
            [("error", .str "KC_DB_INTEGRITY_FAILED"),
              ("message", .str "failed to insert event")]),
            { opened m config file with files })
        else
          let after := closed ext m config file ⟨files, file.db⟩
          ((encryptionStatusForVault ext host trouble config after).map fun status => {
              status
              migratedObjects := migrated
              alreadyEncryptedObjects := alreadyEncrypted },
            after)

end Migration

end KnowledgeCore
