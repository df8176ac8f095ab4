import KnowledgeCore.Export
import KnowledgeCore.Lib.PathBuf

/-!
# The object store

An object is a file named by the hash of its bytes. A store with a key seals what it writes:
the file is a magic number, a nonce that depends on the hash, and the ciphertext. A store never
writes a file that is there already, and takes a file for sealed when it starts with the magic
number.
-/

namespace KnowledgeCore

/-- The files of the machine, under their paths. -/
abbrev Files := Table (List UInt8)

/-- What a store works on: the files of the machine, and the tables of the open database. -/
structure Disk where
  files : Files
  db : Db

structure ObjectStoreEncryptionContext where
  key : Vector UInt8 32
  keyReference : String

structure ObjectStore where
  objectsDir : String
  encryption : Option ObjectStoreEncryptionContext

def objectStoreError (code message : String) (details : List (String × Json)) : AppError where
  code := code
  category := "object_store"
  message := message
  details := .obj details

def encryptionError (code message : String) (details : List (String × Json)) : AppError where
  code := code
  category := "encryption"
  message := message
  details := .obj details

/-- Whether a file of the object store is taken for encrypted. -/
def isEncryptedPayload (bytes : List UInt8) : Bool :=
  Content.ENCRYPTED_MAGIC.isPrefixOf bytes

/-- What gets written of a file: all of it, or when writing stops some of its first bytes. -/
def written (bytes : List UInt8) : Option Nat → List UInt8
  | none => bytes
  | some n => bytes.take n

namespace Disk

/-- `fs::write`, which may stop after some bytes. -/
def writeFile (disk : Disk) (path : String) (bytes : List UInt8) (stop : Option Nat) :
  AppResult Unit × Disk
  :=
  let after := { disk with files := disk.files.insert path (written bytes stop) }
  match stop with
  | none => (.ok (), after)
  | some _ =>
    (.error (objectStoreError "KC_INGEST_READ_FAILED" "failed to write object bytes"
      [("error", .str "No space left on device"), ("path", .str path)]), after)

/-- Insert the row of an object, unless it has one. -/
def insertObject (disk : Disk) (hash : String) (bytes : List UInt8) : Disk :=
  { disk with db := { disk.db with
      objects := disk.db.objects.insertIfNew hash { bytes := Int64.ofNat bytes.length } } }

end Disk

namespace ObjectStore

def new (objectsDir : String) : ObjectStore where
  objectsDir := objectsDir
  encryption := none

def withEncryption (objectsDir : String) (encryption : ObjectStoreEncryptionContext) :
  ObjectStore
  where
  objectsDir := objectsDir
  encryption := some encryption

/-- The nonce of an object, the first bytes of a hash. -/
def deterministicNonce (ext : Externals) (objectHash keyReference : String) : Vector UInt8 24 :=
  let digest := ext.blake3 (.text (objectHash ++ ":" ++ keyReference))
  Vector.ofFn fun i => digest.get ⟨i.val, by omega⟩

/-- The layout of an encrypted object. -/
def sealedPayload (nonce : Vector UInt8 24) (ciphertext : List UInt8) : List UInt8 :=
  Content.ENCRYPTED_MAGIC ++ nonce.toList ++ ciphertext

def maybeEncryptBytes (ext : Externals) (store : ObjectStore) (objectHash : String)
    (bytes : List UInt8) : AppResult (List UInt8)
  :=
  match store.encryption with
  | none => .ok bytes
  | some enc => do
    let nonce := deterministicNonce ext objectHash enc.keyReference
    let ciphertext ← okOrElse
      (encryptionError "KC_ENCRYPTION_KEY_INVALID" "failed encrypting object payload"
        [("error", .str "aead::Error")])
      (ext.encrypt enc.key nonce bytes)
    .ok (sealedPayload nonce ciphertext)

def maybeDecryptBytes (ext : Externals) (store : ObjectStore) (objectHash : String)
    (bytes : List UInt8) : AppResult (List UInt8)
  :=
  if isEncryptedPayload bytes = false then
    .ok bytes
  else do
    let enc ← okOrElse
      (encryptionError "KC_ENCRYPTION_REQUIRED"
        "encrypted object payload requires encryption context"
        [("object_hash", .str objectHash)])
      store.encryption
    let expectedNonce := deterministicNonce ext objectHash enc.keyReference
    if bytes.length < 4 + 24 then
      .error (encryptionError "KC_ENCRYPTION_UNSUPPORTED"
        "encrypted object payload has invalid format"
        [("object_hash", .str objectHash), ("bytes", .int bytes.length)])
    else if (bytes.drop 4).take 24 ≠ expectedNonce.toList then
      .error (encryptionError "KC_ENCRYPTION_KEY_INVALID"
        "encryption key context does not match stored object payload"
        [("object_hash", .str objectHash)])
    else
      okOrElse
        (encryptionError "KC_ENCRYPTION_KEY_INVALID" "failed decrypting object payload"
          [("error", .str "aead::Error"), ("object_hash", .str objectHash)])
        (ext.decrypt enc.key expectedNonce (bytes.drop (4 + 24)))

/-- The path of an object. A hash whose second byte after the prefix does not end a character
stops the program there. -/
def filePathForHash (store : ObjectStore) (objectHash : String) : AppResult String :=
  if "blake3:".toList.isPrefixOf objectHash.toList = false ∨ objectHash.utf8ByteSize < 9 then
    .error (objectStoreError "KC_HASH_INVALID_FORMAT" "invalid object hash format"
      [("object_hash", .str objectHash)])
  else do
    let dir ← okOrElse
      (objectStoreError "KC_HASH_INVALID_FORMAT" "byte index 2 is not a char boundary"
        [("object_hash", .str objectHash)])
      (Export.firstTwoBytes (objectHash.toList.drop 7))
    .ok (PathBuf.join (PathBuf.join store.objectsDir dir) objectHash)

/-- Write the file of an object, unless it is there. -/
def ensureFile (ext : Externals) (store : ObjectStore) (hash path : String) (bytes : List UInt8)
    (stop : Option Nat) (disk : Disk) : AppResult Unit × Disk
  :=
  if disk.files.contains path then
    (.ok (), disk)
  else
    match store.maybeEncryptBytes ext hash bytes with
    | .error e => (.error e, disk)
    | .ok stored => disk.writeFile path stored stop

/-- Store a byte string and return its hash. -/
def putBytes (ext : Externals) (store : ObjectStore) (bytes : List UInt8) (stop : Option Nat)
    (disk : Disk) : AppResult String × Disk
  :=
  let hash := blake3HexPrefixed ext (.raw bytes)
  match store.filePathForHash hash with
  | .error e => (.error e, disk)
  | .ok path =>
    match store.ensureFile ext hash path bytes stop disk with
    | (.error e, after) => (.error e, after)
    | (.ok (), after) => (.ok hash, after.insertObject hash bytes)

/-- The bytes of the file of an object, as they are. -/
def rawBytes (store : ObjectStore) (objectHash : String) (files : Files) :
  AppResult (List UInt8)
  := do
  let path ← store.filePathForHash objectHash
  okOrElse
    (objectStoreError "KC_INGEST_READ_FAILED" "failed to read object bytes"
      [("error", .str "No such file or directory"), ("path", .str path)])
    files[path]?

/-- The bytes of an object. -/
def getBytes (ext : Externals) (store : ObjectStore) (objectHash : String) (files : Files) :
  AppResult (List UInt8)
  := do
  let raw ← store.rawBytes objectHash files
  store.maybeDecryptBytes ext objectHash raw

/-! ### Where an object is -/

/-- A hash has the same length as any other. -/
theorem length_blake3HexPrefixed (ext : Externals) (bytes : Content) :
  (blake3HexPrefixed ext bytes).toList.length = 71
  := by
  have hdigits : (Hex.bytesToHex (ext.blake3 bytes).toList).toList.length = 64 := by
    rw [Hex.bytesToHex, String.toList_ofList, Hex.length_digits, Vector.length_toList]
  rw [blake3HexPrefixed, String.toList_append, List.length_append, hdigits]
  rfl

/-- The file of a hash is below the directory of the store, and is named by the hash. -/
theorem exists_filePathForHash (ext : Externals) (store : ObjectStore) (bytes : Content) :
  ∃ dir, store.filePathForHash (blake3HexPrefixed ext bytes)
    = .ok (PathBuf.withSeparator store.objectsDir ++ dir ++ "/" ++ blake3HexPrefixed ext bytes)
  := by
  have hsize : 9 ≤ (blake3HexPrefixed ext bytes).utf8ByteSize := by
    rw [blake3HexPrefixed, String.utf8ByteSize_append, Hex.utf8ByteSize_bytesToHex]
    simp
  obtain ⟨b, rest, hb⟩ : ∃ b rest, (ext.blake3 bytes).toList = b :: rest := by
    apply List.exists_cons_of_length_pos
    simp
  have hlt := b.toNat_lt
  let c := CanonJson.hexDigit (b.toNat / 16)
  let d := CanonJson.hexDigit (b.toNat % 16)
  have htail : (blake3HexPrefixed ext bytes).toList.drop 7
      = c :: d :: rest.flatMap Hex.byteDigits := by
    rw [blake3HexPrefixed, hb, String.toList_append]
    simp [Hex.bytesToHex, Hex.byteDigits, c, d]
  have hdir : Export.firstTwoBytes (c :: d :: rest.flatMap Hex.byteDigits)
      = some (String.ofList [c, d]) := by
    have hc : c.utf8Size = 1 := Hex.utf8Size_hexDigit _ (by omega)
    have hd : d.utf8Size = 1 := Hex.utf8Size_hexDigit _ (by omega)
    rw [Export.firstTwoBytes, hc, hd]
    rfl
  have hne (n : Nat) : n < 16 → CanonJson.hexDigit n ≠ '/' := by
    revert n
    decide
  have hjoin : PathBuf.join store.objectsDir (String.ofList [c, d])
      = PathBuf.withSeparator store.objectsDir ++ String.ofList [c, d] := by
    apply PathBuf.join_of_relative
    simp [c, hne (b.toNat / 16) (by omega)]
  use String.ofList [c, d]
  rw [filePathForHash, htail, hdir, if_neg, okOrElse_some, AppResult.ok_bind, hjoin,
    PathBuf.join_of_relative, PathBuf.withSeparator_eq]
  · intro hempty
    simpa using congrArg String.toList hempty
  · simp [d, hne (b.toNat % 16) (by omega)]
  · simp [blake3HexPrefixed, String.toList_append]
  · rintro (hstarts | hshort)
    · simp [blake3HexPrefixed, String.toList_append] at hstarts
    · omega

/-- Byte strings with different hashes have different files. -/
theorem filePathForHash_inj {ext : Externals} {store : ObjectStore} {bytes bytes' : Content}
    {path : String}
    (h : store.filePathForHash (blake3HexPrefixed ext bytes) = .ok path)
    (h' : store.filePathForHash (blake3HexPrefixed ext bytes') = .ok path) :
  blake3HexPrefixed ext bytes = blake3HexPrefixed ext bytes'
  := by
  obtain ⟨dir, hdir⟩ := exists_filePathForHash ext store bytes
  obtain ⟨dir', hdir'⟩ := exists_filePathForHash ext store bytes'
  rw [hdir, Except.ok.injEq] at h
  rw [hdir', Except.ok.injEq] at h'
  have hlists : (PathBuf.withSeparator store.objectsDir ++ dir ++ "/").toList
        ++ (blake3HexPrefixed ext bytes).toList
      = (PathBuf.withSeparator store.objectsDir ++ dir' ++ "/").toList
        ++ (blake3HexPrefixed ext bytes').toList := by
    rw [← String.toList_append, ← String.toList_append, h, h']
  have hlength := (length_blake3HexPrefixed ext bytes).trans
    (length_blake3HexPrefixed ext bytes').symm
  apply String.toList_inj.mp
  apply List.append_inj_right' hlists hlength

/-! ### What a payload is read as -/

@[simp] theorem isEncryptedPayload_sealedPayload (nonce : Vector UInt8 24)
    (ciphertext : List UInt8) :
  isEncryptedPayload (sealedPayload nonce ciphertext) = true
  := rfl

theorem take_nonce (nonce : Vector UInt8 24) (ciphertext : List UInt8) :
  (nonce.toList ++ ciphertext).take 24 = nonce.toList
  := List.take_left' nonce.length_toList

theorem drop_nonce (nonce : Vector UInt8 24) (ciphertext : List UInt8) :
  (nonce.toList ++ ciphertext).drop 24 = ciphertext
  := List.drop_left' nonce.length_toList

/-- A plain store writes the bytes as they are, and a store with a key seals them. -/
theorem maybeEncryptBytes_eq_ok {ext : Externals} {store : ObjectStore} {hash : String}
    {bytes stored : List UInt8} :
  store.maybeEncryptBytes ext hash bytes = .ok stored
    ↔ (store.encryption = none ∧ stored = bytes)
      ∨ ∃ enc ciphertext, store.encryption = some enc
        ∧ ext.encrypt enc.key (deterministicNonce ext hash enc.keyReference) bytes
          = some ciphertext
        ∧ stored = sealedPayload (deterministicNonce ext hash enc.keyReference) ciphertext
  := by
  rw [maybeEncryptBytes]
  cases store.encryption with
  | none => simp [eq_comm]
  | some enc =>
    simp only [AppResult.bind_eq_ok, okOrElse_eq_ok, Except.ok.injEq, Option.some.injEq]
    constructor
    · rintro ⟨ciphertext, hseal, rfl⟩
      right
      use enc, ciphertext, rfl, hseal
    · rintro (⟨hnone, -⟩ | ⟨_, ciphertext, rfl, hseal, rfl⟩)
      · cases hnone
      · use ciphertext, hseal

/-- What does not look sealed is read as it is. -/
theorem maybeDecryptBytes_plain {ext : Externals} {store : ObjectStore} {hash : String}
    {raw : List UInt8} (h : isEncryptedPayload raw = false) :
  store.maybeDecryptBytes ext hash raw = .ok raw
  := by
  rw [maybeDecryptBytes, if_pos h]

/-- What looks sealed is read as what it opens to under the key of the store. -/
theorem maybeDecryptBytes_eq_ok {ext : Externals} {store : ObjectStore} {hash : String}
    {raw bytes : List UInt8} (h : isEncryptedPayload raw = true) :
  store.maybeDecryptBytes ext hash raw = .ok bytes
    ↔ ∃ enc ciphertext, store.encryption = some enc
      ∧ raw = sealedPayload (deterministicNonce ext hash enc.keyReference) ciphertext
      ∧ ext.decrypt enc.key (deterministicNonce ext hash enc.keyReference) ciphertext
        = some bytes
  := by
  obtain ⟨rest, rfl⟩ := List.isPrefixOf_iff_prefix.mp h
  have hdrop : (Content.ENCRYPTED_MAGIC ++ rest).drop (4 + 24) = rest.drop 24 := rfl
  have htake : ((Content.ENCRYPTED_MAGIC ++ rest).drop 4).take 24 = rest.take 24 := rfl
  have hlength : (Content.ENCRYPTED_MAGIC ++ rest).length = rest.length + 4 := rfl
  simp only [sealedPayload, List.append_assoc, List.append_cancel_left_eq]
  rw [maybeDecryptBytes, h, if_neg (by simp), hdrop, htake, hlength]
  cases henc : store.encryption with
  | none => simp
  | some enc =>
    simp only [okOrElse_some, AppResult.ok_bind, Option.some.injEq]
    constructor
    · intro hread
      split at hread
      · cases hread
      · split at hread
        · cases hread
        · next hnonce =>
          use enc, rest.drop 24, rfl
          constructor
          · rw [← not_not.mp hnonce, List.take_append_drop]
          · apply okOrElse_eq_ok.mp hread
    · rintro ⟨_, ciphertext, rfl, hrest, hopen⟩
      rw [hrest, take_nonce, drop_nonce, if_neg, if_neg (not_not_intro rfl), okOrElse_eq_ok]
      · exact hopen
      · rw [List.length_append, Vector.length_toList]
        omega

/-! ### What a put leaves -/

/-- A put leaves the files that making sure of its own leaves. -/
theorem files_putBytes {ext : Externals} {store : ObjectStore} {bytes : List UInt8}
    {path : String}
    (hpath : store.filePathForHash (blake3HexPrefixed ext (.raw bytes)) = .ok path)
    (stop : Option Nat) (disk : Disk) :
  (store.putBytes ext bytes stop disk).2.files
    = (store.ensureFile ext (blake3HexPrefixed ext (.raw bytes)) path bytes stop disk).2.files
  := by
  simp only [putBytes, hpath]
  rcases store.ensureFile ext _ path bytes stop disk with ⟨_ | _, after⟩ <;> rfl

/-- A put writes its file if there is none. -/
theorem getElem?_files_putBytes {ext : Externals} {store : ObjectStore} {bytes : List UInt8}
    {path : String} {stored : List UInt8}
    (hpath : store.filePathForHash (blake3HexPrefixed ext (.raw bytes)) = .ok path)
    (hstored : store.maybeEncryptBytes ext (blake3HexPrefixed ext (.raw bytes)) bytes
      = .ok stored)
    (stop : Option Nat) (disk : Disk) (path' : String) :
  (store.putBytes ext bytes stop disk).2.files[path']?
    = disk.files[path']?.or (if path = path' then some (written stored stop) else none)
  := by
  rw [files_putBytes hpath, ensureFile, hstored]
  by_cases hmem : path ∈ disk.files
  · rw [if_pos (by simpa using hmem)]
    by_cases h : path = path'
    · subst h
      rw [Option.or_of_isSome (Std.ExtTreeMap.mem_iff_isSome_getElem?.mp hmem)]
    · simp [h]
  · rw [if_neg (by simpa using hmem)]
    have hwrite : (disk.writeFile path stored stop).2.files
        = disk.files.insert path (written stored stop) := by
      cases stop <;> rfl
    rw [hwrite, Std.ExtTreeMap.getElem?_insert]
    by_cases h : path = path'
    · subst h
      simp [hmem]
    · simp [h]

/-- A put of bytes that cannot be sealed writes nothing. -/
theorem files_putBytes_of_error {ext : Externals} {store : ObjectStore} {bytes : List UInt8}
    {e : AppError}
    (he : store.maybeEncryptBytes ext (blake3HexPrefixed ext (.raw bytes)) bytes = .error e)
    (stop : Option Nat) (disk : Disk) :
  (store.putBytes ext bytes stop disk).2.files = disk.files
  := by
  obtain ⟨dir, hpath⟩ := exists_filePathForHash ext store (.raw bytes)
  rw [files_putBytes hpath, ensureFile, he]
  split <;> rfl

/-- A put leaves the files of other hashes alone. -/
theorem getElem?_files_putBytes_of_ne {ext : Externals} {store : ObjectStore}
    {bytes bytes' : List UInt8} {path : String}
    (hpath : store.filePathForHash (blake3HexPrefixed ext (.raw bytes)) = .ok path)
    (hne : blake3HexPrefixed ext (.raw bytes') ≠ blake3HexPrefixed ext (.raw bytes))
    (stop : Option Nat) (disk : Disk) :
  (store.putBytes ext bytes' stop disk).2.files[path]? = disk.files[path]?
  := by
  obtain ⟨dir, hpath'⟩ := exists_filePathForHash ext store (.raw bytes')
  cases hstored : store.maybeEncryptBytes ext (blake3HexPrefixed ext (.raw bytes')) bytes' with
  | error e => rw [files_putBytes_of_error hstored]
  | ok stored =>
    rw [getElem?_files_putBytes hpath' hstored, if_neg, Option.or_none]
    rintro rfl
    exact hne (filePathForHash_inj hpath' hpath)

/-- Writing a file changes no table. -/
theorem db_ensureFile (ext : Externals) (store : ObjectStore) (hash path : String)
    (bytes : List UInt8) (stop : Option Nat) (disk : Disk) :
  (store.ensureFile ext hash path bytes stop disk).2.db = disk.db
  := by
  rw [ensureFile]
  split
  · rfl
  · split
    · rfl
    · cases stop <;> rfl

/-- A put changes no table but that of the objects. -/
theorem db_putBytes (ext : Externals) (store : ObjectStore) (bytes : List UInt8)
    (stop : Option Nat) (disk : Disk) :
  ∃ objects, (store.putBytes ext bytes stop disk).2.db = { disk.db with objects }
  := by
  rw [putBytes]
  split
  · use disk.db.objects
  next path _ =>
    have hdb := store.db_ensureFile ext (blake3HexPrefixed ext (.raw bytes)) path bytes stop disk
    split
    next heq =>
      rw [heq] at hdb
      use disk.db.objects, hdb
    next after heq =>
      rw [heq] at hdb
      use (after.insertObject (blake3HexPrefixed ext (.raw bytes)) bytes).db.objects
      rw [← hdb]
      rfl

/-- A put that goes through has found its file, or has sealed its bytes and written all of
it. -/
theorem putBytes_eq_ok {ext : Externals} {store : ObjectStore} {bytes : List UInt8}
    {path hash : String} {stop : Option Nat} {disk after : Disk}
    (hpath : store.filePathForHash (blake3HexPrefixed ext (.raw bytes)) = .ok path)
    (h : store.putBytes ext bytes stop disk = (.ok hash, after)) :
  hash = blake3HexPrefixed ext (.raw bytes)
    ∧ (path ∈ disk.files
      ∨ stop = none ∧ ∃ stored, store.maybeEncryptBytes ext hash bytes = .ok stored)
  := by
  simp only [putBytes, hpath] at h
  rcases hensure : store.ensureFile ext (blake3HexPrefixed ext (.raw bytes)) path bytes stop disk
    with ⟨e | _, after'⟩
  · simp [hensure] at h
  · simp only [hensure, Prod.mk.injEq, Except.ok.injEq] at h
    obtain ⟨rfl, -⟩ := h
    use rfl
    rw [ensureFile] at hensure
    split at hensure
    · next hc =>
      left
      simpa using hc
    · split at hensure
      · cases hensure
      · next stored hstored =>
        right
        cases stop with
        | none => exact ⟨rfl, stored, hstored⟩
        | some n => cases hensure

/-- A put of bytes that can be sealed goes through when it is not stopped. -/
theorem exists_putBytes {ext : Externals} {store : ObjectStore} {bytes stored : List UInt8}
    (hstored : store.maybeEncryptBytes ext (blake3HexPrefixed ext (.raw bytes)) bytes
      = .ok stored)
    (disk : Disk) :
  ∃ after, store.putBytes ext bytes none disk
    = (.ok (blake3HexPrefixed ext (.raw bytes)), after)
  := by
  obtain ⟨dir, hpath⟩ := exists_filePathForHash ext store (.raw bytes)
  have hensure (path : String) : ∃ after,
      store.ensureFile ext (blake3HexPrefixed ext (.raw bytes)) path bytes none disk
        = (.ok (), after) := by
    rw [ensureFile, hstored]
    split
    · exact ⟨_, rfl⟩
    · exact ⟨_, rfl⟩
  obtain ⟨after, hafter⟩ := hensure _
  use after.insertObject (blake3HexPrefixed ext (.raw bytes)) bytes
  simp only [putBytes, hpath]
  rw [hafter]

/-- Reading an object finds its file and reads what is in it. -/
theorem getBytes_eq_ok {ext : Externals} {store : ObjectStore} {path hash : String}
    {files : Files} {bytes : List UInt8} (hpath : store.filePathForHash hash = .ok path) :
  store.getBytes ext hash files = .ok bytes
    ↔ ∃ raw, files[path]? = some raw ∧ store.maybeDecryptBytes ext hash raw = .ok bytes
  := by
  simp only [getBytes, rawBytes, hpath, AppResult.ok_bind, AppResult.bind_eq_ok,
    okOrElse_eq_ok]

end ObjectStore

end KnowledgeCore
